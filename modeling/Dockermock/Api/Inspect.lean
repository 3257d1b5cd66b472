import Dockermock.Api.Runs

/-!
What GET /api/container/<name> shows of a container. A container that was created
is found under its name ever after, with the config it was created with and with
every address it got.
-/

namespace Dockermock.Api

open Library Network Database Lifecycle

section Code

/-- No statement names a driver, so that every row has the column's default. -/
structure AttachedNetwork where
  name : String
  subnet : Option IpNetwork
  driver : String
  ip : String
  deriving DecidableEq

/-- The columns of the row, with config_json merged into them. -/
structure Inspected where
  id : Nat
  row : ContainerRow
  status : Status
  path : String
  networks : List AttachedNetwork

/-- The join has no ORDER BY; the list has the order of the link rows. -/
def getContainerNetworks (tables : Tables) (cid : Nat) : List AttachedNetwork :=
  (tables.containerNetworks.select fun link => link.containerId = cid).filterMap fun link =>
    (tables.networks.rows.get link.2.networkId).map fun network =>
      ⟨network.name, network.subnet, "bridge", link.2.ipAddress⟩

def getContainer (service : Service) (name : String) : Option Inspected :=
  (findContainer service.conn.view name).map fun (id, row) =>
    { id := id
      row := row
      status := service.statusOf id
      path := joinPath "/jails/containers" row.gid
      networks := getContainerNetworks service.conn.view id }

end Code

section Persistence

theorem findContainer_listed {tables : Tables} {id : Nat} {row : ContainerRow}
    (intact : Intact tables) (held : tables.containers.rows.get id = some row) :
    findContainer tables row.name = some (id, row) := by
  have listed : (id, row) ∈ tables.containers.select fun other => other.name = row.name :=
    (Table.mem_select _ _ _ _).mpr ⟨held, decide_eq_true rfl⟩
  cases found : findContainer tables row.name with
  | none =>
      rw [findContainer, List.head?_eq_none_iff] at found
      rw [found] at listed
      cases listed
  | some entry =>
      rcases findContainer_some found with ⟨member, named⟩
      exact congrArg some (List.inj_on_of_nodup_map intact.containers member
        ((Dict.get_eq_some_iff _ _ _).mp held) named)

theorem mem_getContainerNetworks {tables : Tables} {cid networkId : Nat} {network : NetworkRow}
    {address : String} (held : tables.networks.rows.get networkId = some network)
    (link : Table.holds tables.containerNetworks ⟨networkId, cid, address⟩) :
    ⟨network.name, network.subnet, "bridge", address⟩ ∈ getContainerNetworks tables cid := by
  rcases link with ⟨id, listed⟩
  refine List.mem_filterMap.mpr ⟨(id, ⟨networkId, cid, address⟩),
    List.mem_filter.mpr ⟨listed, decide_eq_true rfl⟩, ?_⟩
  rw [held]
  rfl

theorem Kept.getContainerNetworks {before after : Tables} (kept : Kept before after) (cid : Nat) :
    getContainerNetworks before cid ⊆ getContainerNetworks after cid := by
  intro attached member
  rcases List.mem_filterMap.mp member with ⟨link, listed, shown⟩
  rcases Option.map_eq_some_iff.mp shown with ⟨network, held, rfl⟩
  refine List.mem_filterMap.mpr ⟨link, (kept.containerNetworks.select _).subset listed, ?_⟩
  rw [kept.networks.get held]
  rfl

theorem createContainer_returned {host : Host} {before after : Conn} {request : Request} {cid : Nat}
    (created : createContainer host before request = (.returned cid, after)) :
    ∃ accepted, prepare host before.view request = .ready accepted ∧
      cid = before.view.containers.nextId ∧
      after.committed = after.view ∧ Complete request cid accepted.row after.view := by
  unfold createContainer at created
  cases ready : prepare host before.view request with
  | refused refusal =>
      rw [ready] at created
      cases created
  | raised =>
      rw [ready] at created
      cases created
  | ready accepted =>
      rw [ready] at created
      rcases createAccepted_cases host before accepted (prepare_ready host _ _ _ ready).1 with
        ⟨_, result⟩ | ⟨_, _, result⟩ | ⟨_, _, _, result⟩ | ⟨_, _, _, completed, result⟩
      · cases result.symm.trans created
      · cases result.symm.trans created
      · cases result.symm.trans created
      · cases result.symm.trans created
        exact ⟨accepted, rfl, rfl, rfl,
          complete_of_linking host before accepted request ready completed⟩

theorem Orderly.statusOf_nextId {service : Service} (orderly : Orderly service) :
    service.statusOf service.conn.view.containers.nextId = .created :=
  statusIn_absent fun held => service.conn.view.containers.nextId_absent
    (orderly.conn.ahead.containers.keys (orderly.statuses _ held))

/-- What a later run finds of a container that was created, and what it was created from. -/
theorem createContainer_lasts {images : Table ImageRow} {earlier later : List Action}
    {before after : Service} {host : Host} {request : Request} {cid : Nat} {conn : Conn}
    (reached : Run Service.step anyAction (Service.initial images) earlier before)
    (created : createContainer host before.conn request = (.returned cid, conn))
    (run : Run Service.step anyAction { before with conn := conn } later after) :
    ∃ accepted, prepare host before.conn.view request = .ready accepted ∧
      Complete request cid accepted.row conn.view ∧
      findContainer after.conn.view request.name = some (cid, accepted.row) ∧
          Kept conn.view after.conn.view := by
  have orderly := run_orderly reached (initial_orderly images)
  rcases createContainer_returned created with ⟨accepted, ready, rfl, committed, complete⟩
  have served : before.serve (.createContainer host request) =
      some (.succeeded, { before with conn := conn }) := by
    rw [Service.serve, created]
    rfl
  have started := orderly.stepped (serve_stepped served)
  have ended := run_orderly run started
  have kept : Kept conn.view after.conn.view := by
    rw [← committed]
    exact (run_kept run started).trans ended.conn.ahead
  have found := findContainer_listed ended.conn.view (kept.containers.get complete.container)
  rcases prepare_made ready with ⟨_, _, _, _, _, _, _, made⟩
  rw [(prepareRow_made made).1] at found
  exact ⟨accepted, ready, complete, found, kept⟩

theorem created_container_inspected {images : Table ImageRow} {earlier later : List Action}
    {before after : Service} {host : Host} {request : Request} {cid : Nat} {conn : Conn}
    (reached : Run Service.step anyAction (Service.initial images) earlier before)
    (created : createContainer host before.conn request = (.returned cid, conn))
    (run : Run Service.step anyAction { before with conn := conn } later after) :
    before.statusOf cid = .created ∧
    ∃ accepted inspected, prepare host before.conn.view request = .ready accepted ∧
      getContainer after request.name = some inspected ∧ inspected.id = cid ∧
        inspected.row = accepted.row ∧
      getContainerNetworks conn.view cid ⊆ inspected.networks ∧
      ∀ name ∈ request.networks, ∃ network ∈ getContainerNetworks conn.view cid,
          network.name = name := by
  rcases createContainer_lasts reached created run with ⟨accepted, ready, complete, found, kept⟩
  refine ⟨?_, accepted, _, ready, by
    rw [getContainer, found]; rfl, rfl, rfl, kept.getContainerNetworks _,
    fun name member => ?_⟩
  · rcases createContainer_returned created with ⟨_, _, rfl, _, _⟩
    exact (run_orderly reached (initial_orderly images)).statusOf_nextId
  · rcases complete.networks name member with ⟨networkId, network, address, held, named, link⟩
    exact ⟨_, mem_getContainerNetworks held link, named⟩

end Persistence

section Example

def createdThen (request : Request) (later : List Action) (before : Service) :
    Outcome × Option (List String) :=
  ((createContainer workingHost before.conn request).1,
    (replay Service.step anyAction
      { before with conn := (createContainer workingHost before.conn request).2 } later).map
        Service.sent)

/-- A container on a network, then requests that fail, and two starts. -/
theorem created_container_inspected_shared :
    ∃ (before after : Service) (conn : Conn) (inspected : Inspected),
      createContainer workingHost before.conn (alpineRequest "web" ["pair"]) = (.returned 2, conn) ∧
      Run Service.step anyAction { before with conn := conn } (refusals ++ twoStarts) after ∧
      getContainer after "web" = some inspected ∧ inspected.id = 2 ∧
      ∃ network ∈ inspected.networks, network.name = "pair" := by
  rcases run_of_replay Service.step anyAction
    (createdThen (alpineRequest "web" ["pair"]) (refusals ++ twoStarts))
    stockedService (sharedNetwork.take 6) (.returned 2, some ["web", "web"]) (by decide) with
      ⟨before, reached, read⟩
  have created : createContainer workingHost before.conn (alpineRequest "web" ["pair"]) =
      (.returned 2, (createContainer workingHost before.conn (alpineRequest "web" ["pair"])).2) :=
    Prod.ext (Prod.ext_iff.mp read).1 rfl
  have continued := (Prod.ext_iff.mp read).2
  rw [createdThen] at continued
  rcases run_of_replay Service.step anyAction Service.sent _ (refusals ++ twoStarts)
    _ continued with ⟨after, run, _⟩
  rcases created_container_inspected reached created run with
    ⟨_, _, inspected, _, found, numbered, _, grown, attached⟩
  rcases attached "pair" List.mem_cons_self with ⟨network, member, named⟩
  exact ⟨before, after, _, inspected, created, run, found, numbered, network, grown member, named⟩

end Example

end Dockermock.Api
