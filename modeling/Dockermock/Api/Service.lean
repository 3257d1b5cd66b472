import Dockermock.Library.Transition
import Dockermock.Lifecycle.StopJail
import Dockermock.Api.Records

/-!
The server as one machine: the records, the status column and the start messages
to the worker. A handler under server.lock is one step. POST /api/networks takes
no lock, so that each of its statements is a step of its own, between the handlers:
that one may also fall inside of a handler, whose cursor it shares, is left out.
What a request gets from outside (the file system, the dataset, whether the socket
takes the message) comes with it. The log of status changes serves the properties
only.
-/

namespace Dockermock.Api

open Library Network Database Lifecycle Jail.Confinement

inductive Reply where
  | pending | succeeded | failed
  deriving DecidableEq, Repr

structure Service where
  conn : Conn
  status : Dict Nat Status
  calls : Dict Nat Phase
  sent : List String
  changes : List (String × Status × Status)

inductive Action where
  | createContainer (host : Host) (request : Request)
  | attachNetwork (host : Host) (containerName networkName : String)
  | createVolume (fs : FileSystem) (name : String)
  | removeContainer (storage : Storage) (name : String)
  | startContainer (name : String) (taken : Bool)
  | stopContainer (site : StopJail.Site) (name : String)
  | recordContainer (name : String) (exitCode : Bool)
  | addNetwork (call : Nat) (request : NetworkRequest)
  | networkStatement (call : Nat)
  | markAllExited

def reply (success : Bool) : Reply := if success then .succeeded else .failed

def findContainer (tables : Tables) (name : String) : Option (Nat × ContainerRow) :=
  (tables.containers.select fun row => row.name = name).head?

/-- The column's default is 'created'. -/
def statusIn (status : Dict Nat Status) (id : Nat) : Status := (status.get id).getD .created

namespace Service

def statusOf (service : Service) (id : Nat) : Status := statusIn service.status id

/-- `update containers set status=?`, committed at once. -/
def setStatus (service : Service) (status : Status) (id : Nat) (name : String) : Service :=
  { service with
    conn := service.conn.commit
    status := service.status.set id status
    changes := service.changes ++ [(name, service.statusOf id, status)] }

def startJail (service : Service) (name : String) (taken : Bool) : Reply × Service :=
  match findContainer service.conn.view name with
  | none => (.succeeded, service)
  | some (id, _) =>
      if service.statusOf id = .running then (.succeeded, service)
      else if taken then
        (.succeeded, { service.setStatus .running id name with sent := service.sent ++ [name] })
      else (.failed, service)

def updateExitCode (service : Service) (name : String) : Service :=
  match findContainer service.conn.view name with
  | none => { service with conn := service.conn.commit }
  | some (id, _) => service.setStatus .exited id name

/-- The row of stop_jail, joined with the names of its networks. -/
def stopRow (service : Service) (name : String) : Option StopJail.Container :=
  (findContainer service.conn.view name).map fun (id, row) =>
    ⟨service.statusOf id, row.config.ports,
      (service.conn.view.containerNetworks.select fun link => link.containerId = id).filterMap
          fun link =>
        (service.conn.view.networks.rows.get link.2.networkId).map NetworkRow.name⟩

def running (service : Service) : List (Nat × ContainerRow) :=
  service.conn.view.containers.rows.entries.filter fun entry => service.statusOf entry.1 = .running

def markAllExited (service : Service) : Service :=
  service.running.foldl (fun marked entry => marked.setStatus .exited entry.1 entry.2.name)
    { service with conn := service.conn.commit }

/-- A statement of create_network; there is no answer before the last one. add_network takes
the name that comes back for the sign of success, and the empty one for a failure. -/
def advanceCall (service : Service) (call : Nat) (phase : Phase) : Reply × Service :=
  match advance service.conn phase with
  | (conn, .continues next) =>
      (.pending, { service with conn := conn, calls := service.calls.set call next })
  | (conn, .ends report) =>
      (reply (!report.failed && phase.request.name ≠ some ""),
        { service with conn := conn, calls := service.calls.pop call })

def serve (service : Service) : Action → Option (Reply × Service)
  | .createContainer host request =>
      let (outcome, conn) := createContainer host service.conn request
      some (reply (succeeds outcome), { service with conn := conn })
  | .attachNetwork host containerName networkName =>
      let (outcome, conn) := attachNetwork host service.conn containerName networkName
      some (reply (succeeds outcome), { service with conn := conn })
  | .createVolume fs name =>
      match createVolume fs service.conn name with
      | (.created _, conn, _) => some (.succeeded, { service with conn := conn })
      | (_, conn, _) => some (.failed, { service with conn := conn })
  | .removeContainer storage name =>
      match removeContainer { storage with status := service.statusOf } service.conn name with
      | (.returned none, conn) => some (.succeeded, { service with conn := conn })
      | (_, conn) => some (.failed, { service with conn := conn })
  | .startContainer name taken => some (service.startJail name taken)
  | .stopContainer site name =>
      match (StopJail.stopJail site (service.stopRow name)).1 with
      | .raised => some (.failed, service)
      | .doesNotExist | .returned _ => some (.succeeded, service)
  | .recordContainer name exitCode =>
      if exitCode then some (.succeeded, service.updateExitCode name) else some (.failed, service)
  | .addNetwork call request =>
      if service.calls.get call = none then
        some (.pending, { service with calls := service.calls.set call (.asked request) })
      else none
  | .networkStatement call => (service.calls.get call).map fun phase =>
      service.advanceCall call phase
  | .markAllExited => some (.succeeded, service.markAllExited)

def step (service : Service) (action : Action) : Option Service :=
  (service.serve action).map Prod.snd

def initial (images : Table ImageRow) : Service := ⟨freshConn images .empty, .empty, .empty, [], []⟩

end Service

/-- The action is a statement of a POST /api/networks for the name ''. -/
def namesNothing (service : Service) : Action → Bool
  | .networkStatement call => (service.calls.get call).any fun phase => phase.request.name = some ""
  | _ => false

section Steps

inductive Stepped (service : Service) (action : Action) : Reply → Service → Prop where
  | records (conn : Conn) (calls : Dict Nat Phase) (success : Bool) (answer : Reply)
      (handled : Handled service.conn conn success)
      (matching : answer = .succeeded ∨ success = false ∨ namesNothing service action = true) :
      Stepped service action answer { service with conn := conn, calls := calls }
  | seen (answer : Reply) : Stepped service action answer service
  | started (id : Nat) (row : ContainerRow)
      (found : findContainer service.conn.view row.name = some (id, row))
      (idle : service.statusOf id ≠ .running) :
      Stepped service action .succeeded
        { service.setStatus .running id row.name with sent := service.sent ++ [row.name] }
  | exited (id : Nat) (row : ContainerRow)
      (found : findContainer service.conn.view row.name = some (id, row)) :
      Stepped service action .succeeded (service.setStatus .exited id row.name)
  | marked : Stepped service action .succeeded service.markAllExited

theorem findContainer_some {tables : Tables} {name : String} {id : Nat} {row : ContainerRow}
    (found : findContainer tables name = some (id, row)) :
    (id, row) ∈ tables.containers.rows.entries ∧ row.name = name := by
  have listed := (Table.mem_select _ _ _ _).mp (List.mem_of_mem_head? found)
  exact ⟨(Dict.get_eq_some_iff _ _ _).mp listed.1, by simpa using listed.2⟩

theorem reply_matching (success : Bool) : reply success = .succeeded ∨ success = false := by
  cases success <;> simp [reply]

theorem serve_stepped {service after : Service} {action : Action} {answer : Reply}
    (served : service.serve action = some (answer, after)) :
    Stepped service action answer after := by
  have onRecords : ∀ conn success, Handled service.conn conn success →
      Stepped service action (reply success) { service with conn := conn } :=
    fun conn success handled =>
      .records conn service.calls success _ handled ((reply_matching success).imp_right Or.inl)
  cases action with
  | createContainer host request =>
      cases served
      exact onRecords _ _ (createContainer_handled host service.conn request)
  | attachNetwork host containerName networkName =>
      cases served
      exact onRecords _ _ (attachNetwork_handled host service.conn containerName networkName)
  | createVolume fs name =>
      have handled := createVolume_handled fs service.conn name
      rw [Service.serve] at served
      rcases result : createVolume fs service.conn name with ⟨volume, conn, dirs⟩
      rw [result] at served handled
      cases volume with
      | created id =>
          cases served
          exact onRecords conn true handled
      | alreadyExists =>
          cases served
          exact onRecords conn false handled
      | failed =>
          cases served
          exact onRecords conn false handled
  | removeContainer storage name =>
      -- whatever the status column holds, the call fails and gives the records back
      have fails :=
        removeContainer_fails { storage with status := service.statusOf } service.conn name
      rw [Service.serve] at served
      rcases result : removeContainer { storage with status := service.statusOf } service.conn
        name with ⟨removal, conn⟩
      rw [result] at served fails
      obtain rfl : conn = service.conn := fails.2
      rcases removal with (_ | error) | _
      · exact absurd rfl fails.1
      · cases served
        exact .seen _
      · cases served
        exact .seen _
  | startContainer name taken =>
      rw [Service.serve, Option.some.injEq, Service.startJail] at served
      cases found : findContainer service.conn.view name with
      -- only a start whose message is taken sets a status and sends anything
      | none =>
          simp only [found] at served
          cases served
          exact .seen _
      | some entry =>
          obtain ⟨id, row⟩ := entry
          obtain rfl := (findContainer_some found).2
          simp only [found] at served
          split_ifs at served with running heard
          · cases served
            exact .seen _
          · cases served
            exact .started id row found running
          · cases served
            exact .seen _
  | stopContainer site name =>
      rw [Service.serve] at served
      split at served
      · cases served
        exact .seen _
      · cases served
        exact .seen _
      · cases served
        exact .seen _
  | recordContainer name exitCode =>
      rw [Service.serve] at served
      cases exitCode with
      | false =>
          cases served
          exact .seen _
      | true =>
          cases served
          rw [Service.updateExitCode]
          cases found : findContainer service.conn.view name with
          -- no row of the name: the UPDATE changes nothing, and the answer is success all the same
          | none => exact onRecords _ true (.done service.conn.view .refl)
          | some entry =>
              obtain ⟨id, row⟩ := entry
              obtain rfl := (findContainer_some found).2
              exact .exited id row found
  | addNetwork call request =>
      rw [Service.serve] at served
      split_ifs at served
      cases served
      exact .records service.conn _ false _ (.untouched _) (.inr (.inl rfl))
  | networkStatement call =>
      rcases Option.map_eq_some_iff.mp served with ⟨phase, held, result⟩
      have handled := advance_handled service.conn phase
      rw [Service.advanceCall] at result
      rcases stepped : advance service.conn phase with ⟨conn, next | report⟩
      · rw [stepped] at result handled
        cases result
        exact .records conn _ false _ handled (.inr (.inl rfl))
      · rw [stepped] at result handled
        cases result
        refine .records conn _ _ _ handled ?_
        -- the route takes the name for the sign of success, so that '' is answered as a failure
        by_cases unnamed : phase.request.name = some ""
        · exact .inr (.inr (by simp [namesNothing, held, unnamed]))
        · have same : (!report.failed && decide (phase.request.name ≠ some "")) =
            !report.failed := by simp [unnamed]
          rw [same]
          exact (reply_matching _).imp_right Or.inl
  | markAllExited =>
      cases served
      exact .marked

end Steps

end Dockermock.Api
