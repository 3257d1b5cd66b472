import Mathlib.Logic.Function.Basic
import Dockermock.Kqueue.Worker

/-!
The server's handlers start_jail, stop_jail and update_exit_code next to the
worker. Every handler runs under server.lock, so it is one step; stop_jail alone
is two, because the child may write its pid between the reading of jail.pid and
its truncation. The numbering of start requests and the log of sent signals
serve the properties only.
-/

namespace Dockermock.Lifecycle

open Library Kqueue

inductive Status where
  | created | running | stopped | paused | exited
  deriving DecidableEq, Repr

inductive PidFile where
  | absent
  | unreadable
  | pid (pid : Int)
  deriving DecidableEq, Repr

/-- One SIGTERM of stop_jail: the container and its current run, the pid, and the
jail of the worker's child that had this pid. -/
structure Signal where
  name : String
  run : Nat
  pid : Int
  struck : Option Jail
  deriving DecidableEq, Repr

structure Server where
  status : Dict String Status
  pidFile : String → PidFile
  stopping : Option String
  worker : Worker
  currentRun : String → Nat
  nextRun : Nat
  signals : List Signal

/-- Which container a request of the worker reaches, through the URL quoting of
the client and the routing of the server. -/
structure Http where
  get : String → Option String
  exitCode : String → Option String

inductive Action where
  | create (name : String)
  | start (name : String)
  | stop (name : String)
  | stopTruncates
  | worker (action : Kqueue.Action)
  deriving DecidableEq, Repr

namespace Server

def locked (server : Server) : Bool := server.stopping.isSome

/-- The worker's end of the socket is closed, so that `worker.send` raises. -/
def hungUp (server : Server) : Bool :=
  match server.worker.phase with
  | .closed | .crashed => true
  | _ => false

/-- `(name + '\n').encode()` as the worker's loop will split it. -/
def startLines (name : String) (run : Nat) : List Message :=
  (splitLines name).map fun line => ⟨line, run⟩

def send (server : Server) (name : String) : Server :=
  { server with
    status := server.status.set name .running
    worker :=
      { server.worker with socket := server.worker.socket ++ startLines name server.nextRun }
    currentRun := Function.update server.currentRun name server.nextRun
    nextRun := server.nextRun + 1 }

def startJail (server : Server) (name : String) : Server :=
  match server.status.get name with
  | none => server
  | some status => if status = .running ∨ server.hungUp then server else server.send name

/-- The pid that stop_jail reads and signals, if it gets that far. -/
def signalled (server : Server) (name : String) : Option Int :=
  if server.status.get name = some .running then
    match server.pidFile name with
    | .pid pid => some pid
    | .absent | .unreadable => none
  else none

/-- stop_jail up to the truncation. Without a jail.pid its `open` raises. -/
def stopJail (server : Server) (name : String) : Server :=
  if server.status.get name = some .running ∧ server.pidFile name ≠ .absent then
    { server with
      stopping := some name
      signals := server.signals ++ ((server.signalled name).map fun pid =>
        (⟨name, server.currentRun name, pid, (server.worker.processes.get pid).map Process.jail⟩ :
          Signal)).toList }
  else server

def setPidFile (server : Server) (name : String) (content : PidFile) : Server :=
  { server with pidFile := Function.update server.pidFile name content }

def updateExitCode (server : Server) (name : String) : Server :=
  match server.status.get name with
  | none => server
  | some _ => { server with status := server.status.set name .exited }

/-- What a step of the worker does outside of it. The start messages come from
start_jail alone, and the server keeps its end of the socket open. -/
def serve (http : Http) (server : Server) (action : Kqueue.Action) : Option Server :=
  match action, server.worker.phase with
  | .arrive _, _ | .endOfStream, _ => none
  | .fetched container, .fetch name _ =>
      if server.locked = false ∧ http.get name = some container ∧
          server.status.get container ≠ none then
        some server
      else none
  | .posted, .report jail _ =>
      if server.locked then none else
        match http.exitCode jail.name with
        | none => some server
        | some target => some (server.updateExitCode target)
  | .opensPidFile pid, _ =>
      (server.worker.processes.get pid).map fun process =>
        server.setPidFile process.jail.container .unreadable
  | .writesPid pid, _ =>
      (server.worker.processes.get pid).map fun process =>
        server.setPidFile process.jail.container (.pid pid)
  | _, _ => some server

def step (http : Http) (server : Server) : Action → Option Server
  | .create name =>
      if server.locked then none else
        match server.status.get name with
        | some _ => some server
        | none => some { server with status := server.status.set name .created }
  | .start name => if server.locked then none else some (server.startJail name)
  | .stop name => if server.locked then none else some (server.stopJail name)
  | .stopTruncates =>
      server.stopping.map fun name => { server.setPidFile name .unreadable with stopping := none }
  | .worker action =>
      (server.worker.step action).bind fun worker =>
        (server.serve http action).map fun served => { served with worker := worker }

def internal : Kqueue.Action → Bool
  | .arrive _ | .endOfStream | .fetched _ | .posted | .opensPidFile _ | .writesPid _ => false
  | _ => true

inductive Served (http : Http) (server : Server) : Kqueue.Action → Server → Prop where
  | quiet (action : Kqueue.Action) (inside : internal action = true) :
      Served http server action server
  | fetched (container name : String) (run : Nat) (phase : server.worker.phase = .fetch name run)
      (reached : http.get name = some container) : Served http server (.fetched container) server
  | unrouted (jail : Jail) (site : Site) (phase : server.worker.phase = .report jail site)
      (missed : http.exitCode jail.name = none) : Served http server .posted server
  | posted (jail : Jail) (site : Site) (target : String)
      (phase : server.worker.phase = .report jail site)
      (reached : http.exitCode jail.name = some target) :
      Served http server .posted (server.updateExitCode target)
  | opensPidFile (pid : Int) (process : Process)
      (child : server.worker.processes.get pid = some process) :
      Served http server (.opensPidFile pid) (server.setPidFile process.jail.container .unreadable)
  | writesPid (pid : Int) (process : Process)
      (child : server.worker.processes.get pid = some process) :
      Served http server (.writesPid pid) (server.setPidFile process.jail.container (.pid pid))

inductive Effect (http : Http) (server : Server) : Action → Server → Prop where
  | nothing (action : Action) (outside : ∀ inner, action ≠ .worker inner) :
      Effect http server action server
  | created (name : String) (absent : server.status.get name = none) :
      Effect http server (.create name) { server with status := server.status.set name .created }
  | started (name : String) (status : Status) (row : server.status.get name = some status)
      (stopped : status ≠ .running) (listening : server.hungUp = false) :
      Effect http server (.start name) (server.send name)
  | stopped (name : String) : Effect http server (.stop name) (server.stopJail name)
  | truncated (name : String) (held : server.stopping = some name) :
      Effect http server .stopTruncates { server.setPidFile name .unreadable with stopping := none }
  | worker (inner : Kqueue.Action) (after : Worker) (served : Server)
      (effect : Worker.Effect server.worker inner after)
        (outside : Served http server inner served) :
      Effect http server (.worker inner) { served with worker := after }

theorem serve_served {http : Http} {server served : Server} {action : Kqueue.Action}
    {after : Worker} (effect : Worker.Effect server.worker action after)
    (taken : server.serve http action = some served) :
    Served http server action served := by
  cases effect with
  | arrive messages => cases taken
  | endOfStream idle used ended => cases taken
  | fetched container name run phase =>
      simp only [serve, phase, Option.ite_none_right_eq_some, Option.some.injEq] at taken
      rcases taken with ⟨⟨_, reached, _⟩, rfl⟩
      exact .fetched container name run phase reached
  | posted jail site phase =>
      simp only [serve, phase] at taken
      split at taken
      · cases taken
      · split at taken <;> cases taken
        · exact .unrouted jail site phase ‹_›
        · exact .posted jail site _ phase ‹_›
  | opensPidFile pid process child live before =>
      simp only [serve, child, Option.map_some, Option.some.injEq] at taken
      exact taken ▸ .opensPidFile pid process child
  | writesPid pid process child live before =>
      simp only [serve, child, Option.map_some, Option.some.injEq] at taken
      exact taken ▸ .writesPid pid process child
  | _ =>
      simp only [serve, Option.some.injEq] at taken
      exact taken ▸ .quiet _ rfl

theorem step_effect {http : Http} {server after : Server} {action : Action}
    (taken : step http server action = some after) : Effect http server action after := by
  cases action with
  | create name =>
      simp only [step] at taken
      split at taken
      · cases taken
      · split at taken <;> cases taken
        · exact .nothing _ (by simp)
        · exact .created name ‹_›
  | start name =>
      simp only [step, startJail] at taken
      split at taken
      · cases taken
      · split at taken
        · cases taken
          exact .nothing _ (by simp)
        · split at taken <;> cases taken
          · exact .nothing _ (by simp)
          · rename_i status row ready
            rw [not_or, Bool.not_eq_true] at ready
            exact .started name status row ready.1 ready.2
  | stop name =>
      simp only [step] at taken
      split at taken <;> cases taken
      exact .stopped name
  | stopTruncates =>
      rcases Option.map_eq_some_iff.mp taken with ⟨name, held, rfl⟩
      exact .truncated name held
  | worker inner =>
      rcases Option.bind_eq_some_iff.mp taken with ⟨worker, moved, rest⟩
      rcases Option.map_eq_some_iff.mp rest with ⟨served, outside, rfl⟩
      have effect := Worker.step_effect moved
      exact .worker inner worker served effect (serve_served effect outside)

def initial : Server := ⟨.empty, fun _ => .absent, none, Kqueue.initial, fun _ => 0, 0, []⟩

end Server

def directHttp : Http := ⟨some, some⟩

end Dockermock.Lifecycle
