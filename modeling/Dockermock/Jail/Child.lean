import Mathlib.Tactic.SplitIfs
import Dockermock.Library.Descriptors
import Dockermock.Library.Outcomes

/-!
The forked child, from rfork to exec. rfork gives it an empty descriptor table;
redirect_standard_fds fills the three standard numbers, and redirect_io, which
relies on that, makes them what the container gets. Each call may fail, and the
handlers make an exit code of it. The program that is executed runs in the jail,
as the user of the container, with these three descriptors and no others.
-/

namespace Dockermock.Jail.Child

open Library

section Code

/-- What the handlers tell apart: PermissionError, another OSError, another exception. -/
inductive Result where
  | done | permission | osError | raised
  deriving DecidableEq, Repr

/-- What the calls give. `setup` has the descriptors that setup_jail leaves open, which Python
does not let be inherited, or nothing where it raises. -/
structure Kernel where
  setsid : Bool
  opensNull : Bool
  opensParentLog : Bool
  opensLog : Bool
  opensStdin : Bool
  writesPid : Bool
  attach : Int
  setup : Option (List String)
  passwd : String → Option (Nat × Nat)
  setgid : Result
  setuid : Result
  chdir : Result
  exec : Result

/-- What the child reads of the container. An entrypoint that is a list cannot be executed. -/
structure Container where
  name : String
  user : Option String
  entrypoint : Option (String ⊕ List String)
  command : List String
  workingDir : Option String
  env : List (String × String)

inductive Call where
  | setsid
  | writePid
  | attach
  | setup
  | setgid (gid : Nat)
  | setuid (uid : Nat)
  | chdir (path : String)
  | exec (first : String) (args : List String) (env : List (String × String))
  deriving DecidableEq, Repr

/-- Jail.redirect_io, and redirect_io of the worker. -/
def redirectIo (opensOut opensIn : Bool) (stdout stdin : String) (table : Descriptors String) :
    Option (Descriptors String) := do
  if opensOut = false then failure
  let fdOut := table.least
  let table := table.opened stdout
  if opensIn = false then failure
  let fdIn := table.least
  let table := table.opened stdin
  let table ← table.dup2 fdIn 0
  let table ← table.dup2 fdOut 1
  let table ← table.dup2 fdOut 2
  let table ← table.close fdIn
  table.close fdOut

def redirectStandardFds (opensNull opensLog : Bool) (logfile : String)
    (table : Descriptors String) : Option (Descriptors String) := do
  if opensNull = false then failure
  let devnullFd := table.least
  let table := table.opened "/dev/null"
  let table ← table.dup2 devnullFd 0
  let table ← (if 2 < devnullFd then table.close devnullFd else some table)
  if opensLog = false then failure
  let logFd := table.least
  let table := table.opened logfile
  let table ← table.dup2 logFd 1
  let table ← table.dup2 logFd 2
  if 2 < logFd then table.close logFd else some table

def Result.check : Result → Except Int Unit
  | .done => .ok ()
  | .permission | .osError => .error 128
  | .raised => .error 1

/-- A PermissionError of switch_user becomes a CustomException. -/
def Result.checkUser : Result → Except Int Unit
  | .permission => .error 1
  | result => result.check

def orExit {Value : Type} (code : Int) : Option Value → Except Int Value
  | some value => .ok value
  | none => .error code

def switchUser (kernel : Kernel) : Option String → Except Int (List Call)
  | none => .ok []
  | some username => do
      if username = "" ∨ username = "root" then return []
      let (gid, uid) ← orExit 1 (kernel.passwd username)
      kernel.setgid.checkUser
      kernel.setuid.checkUser
      return [.setgid gid, .setuid uid]

/-- The file to execute and its arguments; nothing where execvpe does not take them. -/
def Container.argv (container : Container) : Option (String × List String) :=
  match container.entrypoint, container.command with
  | some (.inr (_ :: _)), _ => none
  | some (.inl entrypoint), command =>
      if entrypoint = "" then command.head?.map fun first => (first, command)
      else some (entrypoint, entrypoint :: command)
  | _, command => command.head?.map fun first => (first, command)

/-- What is executed: the descriptors before exec, and the calls up to it. -/
structure Program where
  descriptors : Descriptors String
  calls : List Call

/-- The branch of start_container for pid 0 with `child`, or the exit code. -/
def run (kernel : Kernel) (container : Container) (table : Descriptors String) :
    Except Int Program := do
  orExit 1 (if kernel.setsid then some () else none)
  let table ← orExit 1
    (redirectStandardFds kernel.opensNull kernel.opensParentLog "parent.log" table)
  let table ← orExit 1
    (redirectIo kernel.opensLog kernel.opensStdin ("log/" ++ container.name ++ ".log")
      "/dev/null" table)
  orExit 1 (if kernel.writesPid then some () else none)
  orExit 1 (if container.name ≠ "" then some () else none)
  orExit (-5) (if kernel.attach = 0 then some () else none)
  let left ← orExit 1 kernel.setup
  let switched ← switchUser kernel container.user
  let workingDir := container.workingDir.getD "/"
  kernel.chdir.check
  let (first, args) ← orExit 1 container.argv
  kernel.exec.check
  return {
    descriptors := left.foldl Descriptors.opened table
    calls := [.setsid, .writePid, .attach, .setup] ++ switched ++
      [.chdir workingDir, .exec first args container.env] }

end Code

section Redirection
variable {table after : Descriptors String}

/-- Standard input comes from the one file, both outputs go to the other, a program gets them, and
nothing else is touched. -/
structure Wired (stdin stdout : String) (table after : Descriptors String) : Prop where
  input : after.slot 0 = some ⟨stdin, true⟩
  output : after.slot 1 = some ⟨stdout, true⟩
  error : after.slot 2 = some ⟨stdout, true⟩
  others : ∀ fd, 2 < fd → after.slot fd = table.slot fd

def StandardOpen (table : Descriptors String) : Prop := ∀ fd ≤ 2, table.slot fd ≠ none

theorem redirectIo_slots (stdout stdin : String) (table : Descriptors String) :
    ∃ after, redirectIo true true stdout stdin table = some after ∧ after.slot table.least = none ∧
      (2 < table.least → Wired stdin stdout table after) := by
  have free := table.least_free
  have further := table.least_opened stdout
  have slots : ∀ fd, ((table.opened stdout).opened stdin).slot fd =
      if fd = (table.opened stdout).least then some ⟨stdin, false⟩
      else if fd = table.least then some ⟨stdout, false⟩ else table.slot fd := fun fd => by
    rw [Descriptors.opened_slot, Descriptors.opened_slot]
  have free' := (table.opened stdout).least_free
  rw [Descriptors.opened_slot, if_neg (by omega)] at free'
  simp only [redirectIo, Bool.true_eq_false, if_false]
  -- the two numbers that open has returned, the second above the first
  generalize table.least = fdOut at *
  generalize (table.opened stdout).least = fdIn at *
  rcases Descriptors.dup2_spec _ ((slots fdIn).trans (if_pos rfl)) 0 with ⟨first, done, zero⟩
  -- dup2 onto 0 takes the log away again where it was opened under 0
  have out : ∃ entry, first.slot fdOut = some entry ∧ (fdOut ≠ 0 → entry.file = stdout) := by
    rw [zero, slots]
    by_cases bottom : fdOut = 0
    · exact ⟨_, if_pos ⟨bottom, by omega⟩, fun other => absurd bottom other⟩
    · exact ⟨⟨stdout, false⟩, by simp [bottom, Nat.ne_of_lt further], fun _ => rfl⟩
  rcases out with ⟨entry, held, file⟩
  rcases first.dup2_spec held 1 with ⟨second, done', one⟩
  have held' : second.slot fdOut = some entry := by rw [one, if_neg (by omega), held]
  rcases second.dup2_spec held' 2 with ⟨third, done'', two⟩
  have input : ∃ entry, third.slot fdIn = some entry := by
    rw [two, one, zero, slots, if_pos rfl]
    split_ifs <;> exact ⟨_, rfl⟩
  rcases input with ⟨_, input⟩
  rcases third.close_spec input with ⟨fourth, closed, gone⟩
  have output : fourth.slot fdOut = some entry := by
    rw [gone, if_neg (by omega), two, if_neg (by omega), held']
  rcases fourth.close_spec output with ⟨after, closed', gone'⟩
  refine ⟨after, ?_, (gone' fdOut).trans (if_pos rfl), fun above => ?_⟩
  · simp [done, done', done'', closed, closed']
  -- above 2 the six calls do not meet, and each number keeps what was done last to it
  · have same := file (by omega)
    constructor
    · rw [gone', gone, two, one, zero, if_neg (by omega), if_neg (by omega), if_neg (by omega),
        if_neg (by omega), if_pos (by omega)]
    · rw [gone', gone, two, one, if_neg (by omega), if_neg (by omega), if_neg (by omega),
        if_pos (by omega), same]
    · rw [gone', gone, two, if_neg (by omega), if_neg (by omega), if_pos (by omega), same]
    · intro fd other
      have passed : third.slot fd = ((table.opened stdout).opened stdin).slot fd := by
        rw [two, one, zero, if_neg (by omega), if_neg (by omega), if_neg (by omega)]
      rw [gone', gone, passed, slots]
      split_ifs with here there
      · rw [here, free]
      · rw [there, free']
      · rfl

theorem StandardOpen.least (all : StandardOpen table) : 2 < table.least :=
  Nat.lt_of_not_le fun low => all table.least low table.least_free

/-- redirect_io is right exactly where the three standard numbers are taken already. -/
theorem redirect_io_wires_iff (stdout stdin : String) (table : Descriptors String) :
    ∃ after, redirectIo true true stdout stdin table = some after ∧
      (Wired stdin stdout table after ↔ StandardOpen table) := by
  rcases redirectIo_slots stdout stdin table with ⟨after, done, closed, wired⟩
  refine ⟨after, done, fun right fd low free => ?_, fun all => wired all.least⟩
  have least := table.least_le free
  have among : table.least = 0 ∨ table.least = 1 ∨ table.least = 2 := by omega
  rcases among with here | here | here <;> rw [here] at closed
  · exact absurd (right.input.symm.trans closed) (by simp)
  · exact absurd (right.output.symm.trans closed) (by simp)
  · exact absurd (right.error.symm.trans closed) (by simp)

theorem closeAbove {fd : Nat} {entry : Descriptor String} (held : table.slot fd = some entry) :
    ∃ after, (if 2 < fd then table.close fd else some table) = some after ∧
      ∀ other, after.slot other = if other = fd ∧ 2 < fd then none else table.slot other := by
  by_cases above : 2 < fd
  · rcases table.close_spec held with ⟨after, closed, slots⟩
    exact ⟨after, by rw [if_pos above, closed], fun other => by simp [slots, above]⟩
  · exact ⟨table, by rw [if_neg above], fun other => by simp [above]⟩

/-- redirect_standard_fds takes the three numbers, whichever of them were free, and touches no
other. -/
theorem redirectStandardFds_slots (logfile : String) (table : Descriptors String) :
    ∃ after, redirectStandardFds true true logfile table = some after ∧
      (after.slot 0).map Descriptor.file = some "/dev/null" ∧
        (after.slot 1).map Descriptor.file = some logfile ∧
      (after.slot 2).map Descriptor.file = some logfile ∧ ∀ fd, 2 < fd →
          after.slot fd = table.slot fd := by
  have free := table.least_free
  have opens := table.opened_slot "/dev/null"
  simp only [redirectStandardFds, Bool.true_eq_false, if_false]
  generalize table.least = devnullFd at *
  rcases Descriptors.dup2_spec _ ((opens devnullFd).trans (if_pos rfl)) 0 with ⟨first, done, zero⟩
  have held : ∃ entry, first.slot devnullFd = some entry := by
    rw [zero, opens, if_pos rfl]
    split_ifs <;> exact ⟨_, rfl⟩
  rcases held with ⟨_, held⟩
  rcases closeAbove held with ⟨second, closed, kept⟩
  have input : (second.slot 0).map Descriptor.file = some "/dev/null" := by
    rw [kept, zero, opens, if_neg (by omega)]
    split_ifs <;> first | rfl | omega
  have others : ∀ fd, 2 < fd → second.slot fd = table.slot fd := fun fd above => by
    rw [kept, zero, opens, if_neg (show ¬ (fd = 0 ∧ devnullFd ≠ 0) by omega)]
    split_ifs with here there
    · rw [here.1, free]
    · omega
    · rfl
  -- 0 is taken now, so that the log is opened under another number
  have free' := second.least_free
  have opens' := second.opened_slot logfile
  have taken : second.least ≠ 0 := fun bottom => by
    rw [bottom] at free'
    rw [free'] at input
    cases input
  simp only [done, closed, Option.bind_eq_bind, Option.bind_some]
  generalize second.least = logFd at *
  rcases Descriptors.dup2_spec _ ((opens' logFd).trans (if_pos rfl)) 1 with ⟨third, done', one⟩
  have log : third.slot logFd = some ⟨logfile, false⟩ := by
    rw [one, opens', if_neg (by omega), if_pos rfl]
  rcases third.dup2_spec log 2 with ⟨fourth, done'', two⟩
  have log' : fourth.slot logFd = some ⟨logfile, false⟩ := by
    rw [two, if_neg (by omega), log]
  rcases closeAbove log' with ⟨after, closed', kept'⟩
  refine ⟨after, by simp [done', done'', closed'], ?_, ?_, ?_, fun fd above => ?_⟩
  · rw [kept', two, one, opens', if_neg (by omega), if_neg (by omega), if_neg (by omega),
      if_neg taken.symm, input]
  · rw [kept', two, one, opens', if_neg (by omega), if_neg (by omega)]
    split_ifs <;> first | rfl | omega
  · rw [kept', two, one, opens', if_neg (by omega), if_neg (show ¬ (2 = 1 ∧ logFd ≠ 1) by omega)]
    split_ifs <;> first | rfl | omega
  · rw [kept', two, one, opens', ← others fd above, if_neg (show ¬ (fd = 2 ∧ logFd ≠ 2) by omega),
      if_neg (show ¬ (fd = 1 ∧ logFd ≠ 1) by omega)]
    split_ifs with here there
    · rw [here.1, free']
    · omega
    · rfl

theorem redirected (parentLog log : String) (table : Descriptors String) :
    ∃ middle after, redirectStandardFds true true parentLog table = some middle ∧
      redirectIo true true log "/dev/null" middle = some after ∧
          Wired "/dev/null" log table after := by
  rcases redirectStandardFds_slots parentLog table with ⟨middle, done, zero, one, two, others⟩
  rcases redirectIo_slots log "/dev/null" middle with ⟨after, done', _, right⟩
  have all : StandardOpen middle := fun fd low free => by
    have among : fd = 0 ∨ fd = 1 ∨ fd = 2 := by omega
    rcases among with rfl | rfl | rfl
    · rw [free] at zero
      cases zero
    · rw [free] at one
      cases one
    · rw [free] at two
      cases two
  have wired := right all.least
  refine ⟨middle, after, done, done', { wired with others := fun fd above => ?_ }⟩
  rw [wired.others fd above, others fd above]

end Redirection

section Execution
variable {kernel : Kernel} {container : Container} {program : Program}

theorem orExit_ok {Value : Type} {code : Int} {option : Option Value} {value : Value}
    (done : orExit code option = .ok value) : option = some value := by
  cases option with
  | none => cases done
  | some other => rw [Except.ok.inj done]

def Switched (kernel : Kernel) (user : Option String) (calls : List Call) : Prop :=
  (user = none ∨ user = some "" ∨ user = some "root") ∧ calls = [] ∨
    ∃ username gid uid, user = some username ∧ kernel.passwd username = some (gid, uid) ∧
      calls = [.setgid gid, .setuid uid]

theorem switchUser_ok {user : Option String} {calls : List Call}
    (done : switchUser kernel user = .ok calls) : Switched kernel user calls := by
  cases user with
  | none => exact Or.inl ⟨Or.inl rfl, (Except.ok.inj done).symm⟩
  | some username =>
      rw [switchUser] at done
      by_cases root : username = "" ∨ username = "root"
      · rw [if_pos root] at done
        exact Or.inl ⟨Or.inr (root.imp (congrArg some) (congrArg some)), (Except.ok.inj done).symm⟩
      · rw [if_neg root] at done
        rcases bind_ok done with ⟨⟨gid, uid⟩, known, done⟩
        rcases bind_ok done with ⟨_, _, done⟩
        rcases bind_ok done with ⟨_, _, done⟩
        exact Or.inr ⟨username, gid, uid, rfl, orExit_ok known, (Except.ok.inj done).symm⟩

theorem redirectStandardFds_opens {opensNull opensLog : Bool} {logfile : String}
    {table after : Descriptors String}
    (done : redirectStandardFds opensNull opensLog logfile table = some after) :
    opensNull = true ∧ opensLog = true := by
  cases opensNull <;> cases opensLog <;> simp [redirectStandardFds] at done ⊢

theorem redirectIo_opens {opensOut opensIn : Bool} {stdout stdin : String}
    {table after : Descriptors String}
    (done : redirectIo opensOut opensIn stdout stdin table = some after) :
    opensOut = true ∧ opensIn = true := by
  cases opensOut <;> cases opensIn <;> simp [redirectIo] at done ⊢

/-- What a container's program finds: three descriptors and no other, the jail around it, and the
user of the container, if setgid and setuid were called for one. -/
theorem executed_inside (ran : run kernel container .none = .ok program) :
    (∀ fd, program.descriptors.inherited fd =
        if fd = 0 then some "/dev/null"
          else if fd ≤ 2 then some ("log/" ++ container.name ++ ".log") else none) ∧
      kernel.attach = 0 ∧
      ∃ first args switched, container.argv = some (first, args) ∧
        Switched kernel container.user switched ∧
        program.calls = [.setsid, .writePid, .attach, .setup] ++ switched ++
          [.chdir (container.workingDir.getD "/"), .exec first args container.env] := by
  rw [run] at ran
  -- a run that comes to exec has come through each call before it
  rcases bind_ok ran with ⟨_, _, ran⟩
  rcases bind_ok ran with ⟨middle, first, ran⟩
  rcases bind_ok ran with ⟨table, second, ran⟩
  rcases bind_ok ran with ⟨_, _, ran⟩
  rcases bind_ok ran with ⟨_, _, ran⟩
  rcases bind_ok ran with ⟨_, attached, ran⟩
  rcases bind_ok ran with ⟨left, _, ran⟩
  rcases bind_ok ran with ⟨switched, user, ran⟩
  rcases bind_ok ran with ⟨_, _, ran⟩
  rcases bind_ok ran with ⟨⟨file, args⟩, argv, ran⟩
  rcases bind_ok ran with ⟨_, _, ran⟩
  cases ran
  have first := orExit_ok first
  have second := orExit_ok second
  have attached := orExit_ok attached
  rcases redirectStandardFds_opens first with ⟨null, parentLog⟩
  rcases redirectIo_opens second with ⟨log, stdin⟩
  rw [null, parentLog] at first
  rw [log, stdin] at second
  rcases redirected "parent.log" ("log/" ++ container.name ++ ".log") .none with
    ⟨middle', table', done, done', wired⟩
  cases Option.some.inj (first.symm.trans done)
  cases Option.some.inj (second.symm.trans done')
  refine ⟨fun fd => ?_, ?_, file, args, switched, orExit_ok argv, switchUser_ok user, rfl⟩
  · rw [Descriptors.inherited_openedAll, Descriptors.inherited]
    by_cases low : fd ≤ 2
    · have among : fd = 0 ∨ fd = 1 ∨ fd = 2 := by omega
      rcases among with rfl | rfl | rfl
      · rw [wired.input]
        rfl
      · rw [wired.output]
        rfl
      · rw [wired.error]
        rfl
    · rw [wired.others fd (by omega), if_neg (by omega), if_neg low]
      rfl
  · split at attached
    · assumption
    · cases attached

section Example

def willing : Kernel :=
  ⟨true, true, true, true, true, true, 0, some ["route"], fun _ => some (80, 80), .done,
    .done, .done, .done⟩

def web : Container := ⟨"web", some "www", none, ["/bin/httpd", "-f"], some "/srv", []⟩

def lastCall : Except Int Program → Option Call
  | .ok program => program.calls.getLast?
  | .error _ => none

theorem executed_inside_web :
    ∃ program : Program,
      program.calls.getLast? = some (.exec "/bin/httpd" ["/bin/httpd", "-f"] []) ∧
      (∀ fd, program.descriptors.inherited fd =
          if fd = 0 then some "/dev/null"
            else if fd ≤ 2 then some ("log/" ++ web.name ++ ".log") else none) ∧
        willing.attach = 0 ∧
        ∃ first args switched, web.argv = some (first, args) ∧ Switched willing web.user switched ∧
          program.calls = [.setsid, .writePid, .attach, .setup] ++ switched ++
            [.chdir (web.workingDir.getD "/"), .exec first args web.env] := by
  have last : lastCall (run willing web .none) =
      some (.exec "/bin/httpd" ["/bin/httpd", "-f"] []) := by
    decide +kernel
  cases ran : run willing web .none with
  | error code =>
      rw [ran] at last
      cases last
  | ok program =>
      rw [ran] at last
      exact ⟨program, last, executed_inside ran⟩

end Example

end Execution

end Dockermock.Jail.Child
