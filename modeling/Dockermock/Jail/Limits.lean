import Mathlib.Algebra.Group.Nat.Defs
import Dockermock.Library.Text
import Dockermock.Library.Lists

/-!
Resource limits. apply_limits adds rules for the subject `name:<name>`, while
destroy_jail removes those of `jail:<name>`: the two texts differ in their first
field, so no rule that was added is ever removed.
-/

namespace Dockermock.Jail.Limits

open Library

/-- What Python knows of characters beyond ASCII: `str.upper` and the decimal digits of `\d`. -/
structure Unicode where
  upper : String → String
  digit : Char → Option Nat

/-- A value under MAX: a text, a number, or something else as it is formatted, if it can be. -/
inductive Value where
  | text (value : String)
  | number (value : Int)
  | other (shown : Option String)
  deriving DecidableEq, Repr

/-- A value under RESOURCE or ACTION: a text, or something else that has a hash or has none. -/
inductive Key where
  | text (value : String)
  | hashable
  | unhashable
  deriving DecidableEq, Repr

/-- An entry of R_LIMITS; a key that is missing is `none`, as are all of them in an entry that
is no dict. -/
structure Limit where
  resource : Option Key
  max : Option Value
  action : Option Key
  deriving DecidableEq, Repr

def resourceMap : List (String × String) :=
  [("MEMORY", "memoryuse"), ("CPU_PERCENT", "pcpu"), ("PROCESS_COUNT", "maxproc"),
    ("OPEN_FILES", "openfiles"), ("SWAP", "swapuse"), ("CPU_TIME", "cputime")]

def actionMap : List (String × String) := [("BLOCK", "deny"), ("LOG", "log")]

def multipliers : List (String × Nat) :=
  [("K", 1024), ("KB", 1024), ("M", 1024 ^ 2), ("MB", 1024 ^ 2), ("G", 1024 ^ 3),
    ("GB", 1024 ^ 3), ("", 1)]

def unit : List Char → String
  | 'K' :: 'B' :: _ => "KB"
  | 'M' :: 'B' :: _ => "MB"
  | 'G' :: 'B' :: _ => "GB"
  | 'K' :: _ => "K"
  | 'M' :: _ => "M"
  | 'G' :: _ => "G"
  | 'B' :: _ => "B"
  | _ => ""

inductive Amount where
  | bytes (number : Nat)
  | text (value : String)
  deriving DecidableEq, Repr

section Adding

-- `maxDigits` is `sys.get_int_max_str_digits()`, where zero stands for no limit
variable (unicode : Unicode) (maxDigits : Nat)

def isDigit (char : Char) : Bool := (unicode.digit char).isSome

def numeral (digits : List Char) : Nat :=
  digits.foldl (fun num char => 10 * num + (unicode.digit char).getD 0) 0

/-- int of a run of digits: a ValueError if there are too many. -/
def int (digits : List Char) : Option Nat :=
  if maxDigits ≠ 0 ∧ maxDigits < digits.length then none else some (numeral unicode digits)

/-- What `[KMG]?B?` takes behind the digits, as a factor. -/
def factor (rest : List Char) : Nat := (multipliers.lookup (unit rest)).getD 1

/-- convert_to_bytes of a text; nothing where int raises -/
def convertToBytes (value : String) : Option Amount :=
  let text := unicode.upper (strip value)
  let digits := text.toList.takeWhile (isDigit unicode)
  if digits = [] then some (.text text)
  else (int unicode maxDigits digits).map fun num =>
    .bytes (num * factor (text.toList.drop digits.length))

/-- A number in an f-string, which is a ValueError if it has too many digits. -/
def formatted (number : Int) : Option String :=
  if maxDigits ≠ 0 ∧ 10 ^ maxDigits ≤ number.natAbs then none else some (toString number)

def Amount.shown : Amount → Option String
  | .bytes number => formatted maxDigits number
  | .text value => some value

def amount : Value → Option String
  | .text value => (convertToBytes unicode maxDigits value).bind (Amount.shown maxDigits)
  | .number value => formatted maxDigits value
  | .other shown => shown

/-- `get` of one of the two maps: a TypeError for what has no hash. -/
def get (map : List (String × String)) : Key → Option (Option String)
  | .text value => some (map.lookup value)
  | .hashable => some none
  | .unhashable => none

/-- A turn of the loop of convert_to_rctl_rules: nothing where it raises, no rule where the
resource or the action is not known. -/
def ruleOf (subject : String) (limit : Limit) : Option (Option String) :=
  limit.resource.bind fun resource => limit.max.bind fun value => limit.action.bind fun action =>
    (get resourceMap resource).bind fun rctlResource =>
        (get actionMap action).bind fun rctlAction =>
      match rctlResource, rctlAction with
      | some rctlResource, some rctlAction =>
          (amount unicode maxDigits value).map fun shown =>
            some (subject ++ ":" ++ rctlResource ++ ":" ++ rctlAction ++ "=" ++ shown)
      | _, _ => some none

def convertToRctlRules (data : List Limit) (subject : String) : Option (List String) :=
  (data.mapM (ruleOf unicode maxDigits subject)).map fun rules => rules.filterMap id

/-- The rules that apply_limits passes to rctl_add_rule, `R_LIMITS` being there or not. An
exception comes before the first of them. -/
def passed (limits : Option (List Limit)) (name : String) : List String :=
  match limits with
  | none => []
  | some data => (convertToRctlRules unicode maxDigits data ("name:" ++ name)).getD []

/-- apply_limits on the database of rules; a rule that is refused is only logged. -/
def applyLimits (accepts : String → Bool) (limits : Option (List Limit)) (name : String)
    (rules : List String) : List String :=
  rules ++ (passed unicode maxDigits limits name).filter accepts

end Adding

section Removing

def fields (text : String) : List (List Char) := text.toList.splitOn ':'

/-- The leading fields of a rule are those that the filter gives. -/
def hit (pattern rule : String) : Bool := (fields pattern).isPrefixOf (fields rule)

def rctlRemoveRule (pattern : String) (rules : List String) : List String :=
  rules.filter fun rule => !hit pattern rule

def destroyFilter (name : String) : String := "jail:" ++ name

def destroyJail (name : String) (rules : List String) : List String :=
  rctlRemoveRule (destroyFilter name) rules

end Removing

structure Balanced (unicode : Unicode) (maxDigits : Nat) (accepts : String → Bool)
    (limits : Option (List Limit)) (name : String) (rules : List String) : Prop where
  subject : ∀ rule ∈ passed unicode maxDigits limits name,
    ("jail:" ++ name ++ ":").toList <+: rule.toList
  own : ∀ rule ∈ passed unicode maxDigits limits name, hit (destroyFilter name) rule = true
  others : ∀ other others, other ≠ name →
    ∀ rule ∈ passed unicode maxDigits others other, hit (destroyFilter name) rule = false
  restored : destroyJail name (applyLimits unicode maxDigits accepts limits name rules) = rules

/-- All three keys are there, and RESOURCE and ACTION have a hash. -/
def Limit.complete (limit : Limit) : Prop :=
  (limit.resource ≠ none ∧ limit.resource ≠ some .unhashable) ∧ limit.max ≠ none ∧
    limit.action ≠ none ∧ limit.action ≠ some .unhashable

def Limit.recognised (limit : Limit) : Prop :=
  (∃ resource, limit.resource = some (.text resource) ∧ resourceMap.lookup resource ≠ none) ∧
    ∃ action, limit.action = some (.text action) ∧ actionMap.lookup action ≠ none

/-- The number has more digits than int takes, or gets more than can be formatted. -/
def Value.unwritable (unicode : Unicode) (maxDigits : Nat) : Value → Prop
  | .text value =>
      let text := (unicode.upper (strip value)).toList
      let digits := text.takeWhile (isDigit unicode)
      digits ≠ [] ∧ maxDigits ≠ 0 ∧
        (maxDigits < digits.length ∨
          10 ^ maxDigits ≤ numeral unicode digits * factor (text.drop digits.length))
  | .number value => maxDigits ≠ 0 ∧ 10 ^ maxDigits ≤ value.natAbs
  | .other shown => shown = none

/-- The turn of the limit raises, before any rule is added. -/
def Limit.raises (unicode : Unicode) (maxDigits : Nat) (limit : Limit) : Prop :=
  ¬ limit.complete ∨ limit.recognised ∧ ∃ value,
    limit.max = some value ∧ value.unwritable unicode maxDigits

/-- There is no limit that makes a rule, or one that raises keeps all of them from being added. -/
def Unlimited (unicode : Unicode) (maxDigits : Nat) : Option (List Limit) → Prop
  | none => True
  | some data => (∃ limit ∈ data, limit.raises unicode maxDigits) ∨ ∀ limit ∈ data,
      ¬ limit.recognised

section Rules

variable {unicode : Unicode} {maxDigits : Nat} {limits : Option (List Limit)} {name : String}

theorem amount_eq_none_iff (value : Value) :
    amount unicode maxDigits value = none ↔ value.unwritable unicode maxDigits := by
  cases value with
  | text value =>
      rw [amount, convertToBytes, Value.unwritable]
      split_ifs with front
      · simp [front, Amount.shown]
      · generalize (unicode.upper (strip value)).toList = text at front ⊢
        by_cases long : maxDigits ≠ 0 ∧ maxDigits < (text.takeWhile (isDigit unicode)).length
        · simp only [int, if_pos long]
          simp [front, long]
        · simp only [int, if_neg long, Option.map_some, Option.bind_some, Amount.shown, formatted,
            Int.natAbs_natCast]
          rw [not_and] at long
          split_ifs with wide
          · exact iff_of_true rfl ⟨front, wide.1, .inr wide.2⟩
          · refine iff_of_false (by simp) fun ⟨_, bounded, either⟩ => ?_
            exact wide ⟨bounded, either.resolve_left (long bounded)⟩
  | number value =>
      rw [amount, formatted, Value.unwritable]
      split_ifs with wide
      · exact iff_of_true rfl wide
      · exact iff_of_false (by simp) wide
  | other shown => rfl

theorem get_of_lookup (map : List (String × String)) {key : Key} (hashed : key ≠ .unhashable) :
    ∃ found, get map key = some found ∧
        (found ≠ none ↔ ∃ text, key = .text text ∧ map.lookup text ≠ none) := by
  cases key with
  | text value => exact ⟨_, rfl, by simp⟩
  | hashable => exact ⟨none, rfl, by simp⟩
  | unhashable => exact absurd rfl hashed

theorem ruleOf_cases (unicode : Unicode) (maxDigits : Nat) (subject : String) (limit : Limit) :
    ¬ limit.complete ∧ ruleOf unicode maxDigits subject limit = none ∨
      limit.complete ∧ ¬ limit.recognised ∧ ruleOf unicode maxDigits subject limit = some none ∨
      limit.complete ∧ limit.recognised ∧ ∃ value rctlResource rctlAction, limit.max = some value ∧
        ruleOf unicode maxDigits subject limit = (amount unicode maxDigits value).map fun shown =>
          some (subject ++ ":" ++ rctlResource ++ ":" ++ rctlAction ++ "=" ++ shown) := by
  by_cases complete : limit.complete
  · refine .inr ?_
    have ⟨⟨resourced, hashed⟩, valued, acted, hashed'⟩ := complete
    obtain ⟨resource, resourced⟩ := Option.ne_none_iff_exists'.mp resourced
    obtain ⟨value, valued⟩ := Option.ne_none_iff_exists'.mp valued
    obtain ⟨action, acted⟩ := Option.ne_none_iff_exists'.mp acted
    obtain ⟨rctlResource, resourceGot, resourceKnown⟩ :=
      get_of_lookup resourceMap (fun same => hashed (same ▸ resourced))
    obtain ⟨rctlAction, actionGot, actionKnown⟩ :=
      get_of_lookup actionMap (fun same => hashed' (same ▸ acted))
    have recognised : limit.recognised ↔ rctlResource ≠ none ∧ rctlAction ≠ none := by
      rw [Limit.recognised, resourceKnown, actionKnown]
      simp [resourced, acted]
    have turn := ruleOf.eq_def unicode maxDigits subject limit
    simp only [resourced, valued, acted, Option.bind_some, resourceGot, actionGot] at turn
    cases rctlResource with
    | none => exact .inl ⟨complete, by simp [recognised], turn⟩
    | some rctlResource =>
        cases rctlAction with
        | none => exact .inl ⟨complete, by simp [recognised], turn⟩
        | some rctlAction =>
            exact .inr ⟨complete, by
              simp [recognised], value, rctlResource, rctlAction, valued, turn⟩
  · refine .inl ⟨complete, ?_⟩
    -- a missing key or an unhashable one makes the turn raise
    obtain ⟨_ | _ | _ | _, _ | _, _ | _ | _ | _⟩ :=
      limit <;> first | rfl | simp [Limit.complete] at complete

theorem ruleOf_eq_none_iff (subject : String) (limit : Limit) :
    ruleOf unicode maxDigits subject limit = none ↔ limit.raises unicode maxDigits := by
  rw [Limit.raises]
  obtain ⟨incomplete, turn⟩ | ⟨complete, unknown, turn⟩ |
      ⟨complete, known, value, _, _, given, turn⟩ :=
    ruleOf_cases unicode maxDigits subject limit
  · simp [turn, incomplete]
  · simp [turn, complete, unknown]
  · simp [turn, complete, known, given, amount_eq_none_iff]

theorem ruleOf_eq_some_none_iff (subject : String) (limit : Limit)
    (returned : ¬ limit.raises unicode maxDigits) :
    ruleOf unicode maxDigits subject limit = some none ↔ ¬ limit.recognised := by
  have complete : limit.complete := by_contra fun incomplete => returned (.inl incomplete)
  obtain ⟨incomplete, _⟩ | ⟨_, unknown, turn⟩ | ⟨_, known, value, _, _, given, turn⟩ :=
    ruleOf_cases unicode maxDigits subject limit
  · exact absurd complete incomplete
  · exact iff_of_true turn unknown
  · rw [turn]
    simp [known]

theorem ruleOf_amount {subject rule : String} {limit : Limit}
    (made : ruleOf unicode maxDigits subject limit = some (some rule)) :
    ∃ value shown rctlResource rctlAction,
      limit.max = some value ∧ amount unicode maxDigits value = some shown ∧
      rule = subject ++ ":" ++ rctlResource ++ ":" ++ rctlAction ++ "=" ++ shown := by
  obtain ⟨_, turn⟩ | ⟨_, _, turn⟩ | ⟨_, _, value, rctlResource, rctlAction, given, turn⟩ :=
    ruleOf_cases unicode maxDigits subject limit
  · simp [turn] at made
  · simp [turn] at made
  · rw [turn] at made
    obtain ⟨shown, read, same⟩ := Option.map_eq_some_iff.mp made
    exact ⟨value, shown, rctlResource, rctlAction, given, read, (Option.some.inj same).symm⟩

theorem convertToRctlRules_isSome (unicode : Unicode) (maxDigits : Nat) (data : List Limit)
    (subject : String) : (convertToRctlRules unicode maxDigits data subject).isSome = true ↔
      ∀ limit ∈ data, ¬ limit.raises unicode maxDigits := by
  rw [convertToRctlRules, Option.isSome_map, mapM_isSome_iff]
  simp only [Ne, ruleOf_eq_none_iff]

theorem passed_subject {rule : String} (member : rule ∈ passed unicode maxDigits limits name) :
    ∃ rest, rule.toList = "name".toList ++ ':' :: rest := by
  cases limits with
  | none => cases member
  | some data =>
      rw [passed] at member
      cases converted : convertToRctlRules unicode maxDigits data ("name:" ++ name) with
      | none => simp [converted] at member
      | some rules =>
          rw [converted, Option.getD_some] at member
          obtain ⟨made, mapped, rfl⟩ := Option.map_eq_some_iff.mp converted
          obtain ⟨_, among, rfl⟩ := List.mem_filterMap.mp member
          obtain ⟨limit, _, made⟩ := mem_of_mapM mapped among
          obtain ⟨_, shown, rctlResource, rctlAction, _, _, rfl⟩ := ruleOf_amount made
          refine ⟨name.toList ++ (":" ++ rctlResource ++ ":" ++ rctlAction ++ "=" ++ shown).toList,
            ?_⟩
          simp

theorem passed_eq_nil_iff :
    passed unicode maxDigits limits name = [] ↔ Unlimited unicode maxDigits limits := by
  cases limits with
  | none => exact iff_of_true rfl trivial
  | some data =>
      have came := convertToRctlRules_isSome unicode maxDigits data ("name:" ++ name)
      rw [passed, Unlimited]
      cases converted : convertToRctlRules unicode maxDigits data ("name:" ++ name) with
      -- an exception comes before the first rule is added
      | none =>
          rw [converted] at came
          refine iff_of_true rfl (Or.inl ?_)
          by_contra returned
          simp only [not_exists, not_and] at returned
          cases came.mpr returned
      | some rules =>
          have returned := came.mp (by rw [converted]; rfl)
          obtain ⟨made, mapped, rfl⟩ := Option.map_eq_some_iff.mp converted
          rw [Option.getD_some, List.filterMap_eq_nil_iff,
            or_iff_right fun ⟨limit, member, raised⟩ => returned limit member raised]
          constructor
          · intro nothing limit member
            obtain ⟨outcome, among, same⟩ := mapM_mem mapped member
            rw [← ruleOf_eq_some_none_iff _ limit (returned limit member), same]
            exact congrArg some (nothing outcome among)
          · intro unknown outcome among
            obtain ⟨limit, member, same⟩ := mem_of_mapM mapped among
            have none :=
              (ruleOf_eq_some_none_iff ("name:" ++ name) limit (returned limit member)).mpr
              (unknown limit member)
            exact Option.some.inj (same.symm.trans none)

end Rules

/-- The filter of destroy_jail asks for another subject than apply_limits gives. -/
theorem hit_passed {unicode : Unicode} {maxDigits : Nat} {limits : Option (List Limit)}
    {name other rule : String} (member : rule ∈ passed unicode maxDigits limits other) :
    hit (destroyFilter name) rule = false := by
  rcases passed_subject member with ⟨rest, shape⟩
  have pattern : (destroyFilter name).toList = "jail".toList ++ ':' :: name.toList := by
    simp [destroyFilter]
  rw [hit, fields, fields, shape, pattern, List.splitOn_append_cons_self_of_not_mem (by decide),
    List.splitOn_append_cons_self_of_not_mem (by decide)]
  rfl

theorem restored_iff (unicode : Unicode) (maxDigits : Nat) (accepts : String → Bool)
    {limits : Option (List Limit)} {name : String} (rules : List String)
    (nothing : passed unicode maxDigits limits name = []) :
    destroyJail name (applyLimits unicode maxDigits accepts limits name rules) = rules ↔
      ∀ rule ∈ rules, hit (destroyFilter name) rule = false := by
  rw [applyLimits, nothing, List.filter_nil, List.append_nil, destroyJail, rctlRemoveRule,
    List.filter_eq_self]
  simp only [Bool.not_eq_true']

/-- Limits are set and taken back as they should be exactly when no rule is passed at all, and
the database has none that the filter takes away. -/
theorem limits_balanced_iff (unicode : Unicode) (maxDigits : Nat) (accepts : String → Bool)
    (limits : Option (List Limit)) (name : String) (rules : List String) :
    Balanced unicode maxDigits accepts limits name rules ↔
      Unlimited unicode maxDigits limits ∧ ∀ rule ∈ rules,
          hit (destroyFilter name) rule = false := by
  constructor
  · intro balanced
    have nothing : passed unicode maxDigits limits name = [] := by
      refine List.eq_nil_iff_forall_not_mem.mpr fun rule member => ?_
      have hits := balanced.own rule member
      rw [hit_passed member] at hits
      cases hits
    exact ⟨passed_eq_nil_iff.mp nothing,
      (restored_iff unicode maxDigits accepts rules nothing).mp balanced.restored⟩
  · rintro ⟨unlimited, free⟩
    have nothing : passed unicode maxDigits limits name = [] := passed_eq_nil_iff.mpr unlimited
    constructor
    · simp [nothing]
    · simp [nothing]
    · exact fun _ _ _ _ member => hit_passed member
    · exact (restored_iff unicode maxDigits accepts rules nothing).mpr free

section Example

def ascii : Unicode :=
  ⟨asciiUpper, fun char => if char.isDigit then some (char.toNat - 48) else none⟩

def memoryLimit : Limit := ⟨some (.text "MEMORY"), some (.text "512M"), some (.text "BLOCK")⟩

example :
    passed ascii 4300 (some [memoryLimit]) "web" = ["name:web:memoryuse:deny=536870912"] := by
      decide +kernel

/-- A memory limit: its rule is for `name:web`, and destroy_jail leaves it where it is. -/
theorem memory_limit_stays :
    ¬ ∀ unicode maxDigits accepts limits name rules,
        Balanced unicode maxDigits accepts limits name rules := by
  intro claimed
  have own :=
    (claimed ascii 4300 (fun _ => true) (some [memoryLimit]) "web" []).own
      "name:web:memoryuse:deny=536870912"
    (by decide +kernel)
  exact absurd own (by decide +kernel)

end Example

end Dockermock.Jail.Limits
