import Dockermock.Lifecycle.Server
import Dockermock.Api.Service

/-!
The server of the container lifecycle and the service over the database. The one
knows a container by its name, the other by the id of its row; start_jail and
update_exit_code do the same in both, and send the same messages.
-/

namespace Dockermock.Api

open Library Database Lifecycle

/-- Both know the same names, each with the same status. -/
def Agree (server : Server) (service : Service) : Prop :=
  ∀ name, server.status.get name =
    (findContainer service.conn.view name).map fun entry => service.statusOf entry.1

variable {server : Server} {service : Service} {name : String}

theorem findContainer_name {tables : Tables} {other : String} {id : Nat} {row row' : ContainerRow}
    (found : findContainer tables name = some (id, row))
    (found' : findContainer tables other = some (id, row')) : other = name := by
  obtain ⟨listed, rfl⟩ := findContainer_some found
  obtain ⟨listed', rfl⟩ := findContainer_some found'
  have held := (Dict.get_eq_some_iff _ _ _).mpr listed
  have held' := (Dict.get_eq_some_iff _ _ _).mpr listed'
  rw [Option.some.inj (held'.symm.trans held)]

theorem Agree.setStatus (agree : Agree server service) {id : Nat} {row : ContainerRow}
    (found : findContainer service.conn.view name = some (id, row)) (new : Status) :
    Agree { server with status := server.status.set name new } (service.setStatus new id name) := by
  intro other
  change (server.status.set name new).get other =
    (findContainer service.conn.view other).map fun entry =>
      statusIn (service.status.set id new) entry.1
  rw [Dict.get_set]
  by_cases same : other = name
  · rw [if_pos same, same, found, Option.map_some, statusIn, Dict.get_set, if_pos rfl,
      Option.getD_some]
  · rw [if_neg same, agree other]
    cases found' : findContainer service.conn.view other with
    | none => rfl
    | some entry =>
        obtain ⟨id', row'⟩ := entry
        have apart : id' ≠ id := by
          rintro rfl
          exact same (findContainer_name found found')
        rw [Option.map_some, Option.map_some, Service.statusOf, statusIn, statusIn,
          Dict.get_set, if_neg apart]

theorem Agree.status (agree : Agree server service) {id : Nat} {row : ContainerRow}
    (found : findContainer service.conn.view name = some (id, row)) :
    server.status.get name = some (service.statusOf id) := by
  rw [agree name, found, Option.map_some]

/-- start_jail is the same step of both, where the socket takes the message unless the worker has
hung up. -/
theorem startJail_agrees (agree : Agree server service) (name : String) :
    Agree (server.startJail name) (service.startJail name !server.hungUp).2 ∧
      ∃ messages, (service.startJail name !server.hungUp).2.sent = service.sent ++ messages ∧
        (server.startJail name).worker.socket = server.worker.socket ++
          messages.flatMap fun message => Server.startLines message server.nextRun := by
  rw [Server.startJail, Service.startJail]
  cases found : findContainer service.conn.view name with
  | none =>
      rw [agree name, found]
      exact ⟨agree, [], by simp, by simp⟩
  | some entry =>
      obtain ⟨id, row⟩ := entry
      rw [agree.status found]
      dsimp only
      by_cases running : service.statusOf id = .running
      · rw [if_pos (Or.inl running), if_pos running]
        exact ⟨agree, [], by simp, by simp⟩
      · rw [if_neg running]
        cases hung : server.hungUp with
        | true => exact ⟨by simpa using agree, [], by simp, by simp⟩
        | false =>
            rw [if_neg (by simp [running])]
            exact ⟨agree.setStatus found .running, [name], rfl, by simp [Server.send]⟩

theorem updateExitCode_agrees (agree : Agree server service) (name : String) :
    Agree (server.updateExitCode name) (service.updateExitCode name) := by
  rw [Server.updateExitCode, Service.updateExitCode]
  cases found : findContainer service.conn.view name with
  | none =>
      rw [agree name, found]
      exact agree
  | some entry =>
      rw [agree.status found]
      exact agree.setStatus found .exited

end Dockermock.Api
