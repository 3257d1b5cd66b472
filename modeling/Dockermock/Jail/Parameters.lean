import Dockermock.Library.Dict
import Dockermock.Library.Lists
import Dockermock.Library.Paths
import Dockermock.Library.Stream

/-!
The parameters of a jail, as they are handed to jail_set. json_to_iovec tells the
values apart by their types, one test after the other: the test for ip4.addr does
not rule the others out, and a boolean is an integer before it is a boolean.
-/

namespace Dockermock.Jail.Parameters

open Library

inductive Value where
  | text (value : String)
  | int (value : Int)
  | bool (value : Bool)
  | addresses (ips : List String)
  deriving DecidableEq, Repr

/-- What `isinstance(value, int)` lets through, as a number. -/
def Value.asInt : Value → Option Int
  | .int value => some value
  | .bool value => some (if value then 1 else 0)
  | _ => none

def Listed (data : Dict String Value) : Prop :=
  ∀ key ips, data.get key = some (.addresses ips) → key = "ip4.addr"

structure ParameterMap where
  data : Dict String Value
  listed : Listed data

/-- The bytes an iovec is about: `iov_len` of them from `iov_base` on. -/
abbrev Iovec := List UInt8

def cstring (text : String) : List UInt8 := encode text ++ [0]

/-- A word of 32 bits as it stands in memory, the low byte first. -/
def memory (word : BitVec 32) : List UInt8 :=
  [.ofBitVec (word.extractLsb' 0 8), .ofBitVec (word.extractLsb' 8 8),
    .ofBitVec (word.extractLsb' 16 8), .ofBitVec (word.extractLsb' 24 8)]

section Iovecs

-- inet_aton of a text is nothing where it gives 0
variable (inetAton : String → Option (BitVec 32))

def strIovec (key value : String) : List Iovec := [cstring key, cstring value]

def addrIovec (ips : List String) : List Iovec :=
  [cstring "ip4.addr", (ips.filterMap inetAton).flatMap memory]

/-- A c_int keeps the low 32 bits. -/
def intIovec (key : String) (value : Int) : List Iovec :=
  [cstring key, memory (BitVec.ofInt 32 value)]

def emptyIovec (key : String) : List Iovec := [cstring key, []]

def errmsgIovec : List Iovec := [cstring "errmsg", List.replicate 256 0]

/-- A turn of the loop of json_to_iovec. -/
def entryIovecs (key : String) (value : Value) : List Iovec :=
  (if key = "ip4.addr" then
    match value with
    | .text ip => addrIovec inetAton [ip]
    | .addresses ips => addrIovec inetAton ips
    | _ => []
  else []) ++
  match value with
  | .text text => strIovec key text
  | _ =>
      match value.asInt with
      | some number => intIovec key number
      | none =>
          match value with
          | .bool flag => emptyIovec (if flag = false then "no" ++ key else key)
          | _ => []

def jsonToIovec (data : Dict String Value) : List Iovec :=
  data.entries.flatMap (fun entry => entryIovecs inetAton entry.1 entry.2) ++ errmsgIovec

/-- The name and the value that a parameter is to be encoded by. -/
def pair (key : String) : Value → List Iovec
  | .text text => if key = "ip4.addr" then addrIovec inetAton [text] else strIovec key text
  | .int value => intIovec key value
  | .bool true => emptyIovec key
  | .bool false => emptyIovec ("no" ++ key)
  | .addresses ips => addrIovec inetAton ips

theorem pair_length (key : String) (value : Value) : (pair inetAton key value).length = 2 := by
  rcases value with text | number | (_ | _) | ips
  · rw [pair]
    split <;> rfl
  all_goals rfl

/-- Every parameter gives the pair it is to give, and the pair for the message is the last. -/
def OnePairEach (data : Dict String Value) : Prop :=
  jsonToIovec inetAton data =
    data.entries.flatMap (fun entry => pair inetAton entry.1 entry.2) ++ errmsgIovec

def Value.plain (key : String) : Value → Prop
  | .text _ => key ≠ "ip4.addr"
  | .int _ => True
  | .bool _ => False
  | .addresses _ => True

variable {inetAton}

theorem entryIovecs_eq_pair_iff (key : String) (value : Value)
    (listed : ∀ ips, value = .addresses ips → key = "ip4.addr") :
    entryIovecs inetAton key value = pair inetAton key value ↔ value.plain key := by
  rcases value with text | number | (_ | _) | ips
  · by_cases address : key = "ip4.addr"
    · simp [entryIovecs, pair, Value.plain, address, addrIovec, strIovec]
    · simp [entryIovecs, pair, Value.plain, address]
  · simp [entryIovecs, pair, Value.plain, Value.asInt]
  · simp [entryIovecs, pair, Value.plain, Value.asInt, intIovec, emptyIovec, memory]
  · simp [entryIovecs, pair, Value.plain, Value.asInt, intIovec, emptyIovec, memory]
  · simp [entryIovecs, pair, Value.plain, Value.asInt, listed ips rfl]

/-- No parameter is left out, so that one too many is never made up for. -/
theorem entryIovecs_length (key : String) (value : Value)
    (listed : ∀ ips, value = .addresses ips → key = "ip4.addr") :
    2 ≤ (entryIovecs inetAton key value).length := by
  rcases value with text | number | (_ | _) | ips
  · simp [entryIovecs, strIovec]
  · simp [entryIovecs, Value.asInt, intIovec]
  · simp [entryIovecs, Value.asInt, intIovec]
  · simp [entryIovecs, Value.asInt, intIovec]
  · simp [entryIovecs, listed ips rfl, addrIovec]

end Iovecs

/-- Each parameter is encoded once and by its own branch exactly when none is a flag, and the
addresses are a list. -/
theorem onePairEach_iff (inetAton : String → Option (BitVec 32)) (parameters : ParameterMap) :
    OnePairEach inetAton parameters.data ↔
      ∀ key value, parameters.data.get key = some value → value.plain key := by
  have listed : ∀ entry ∈ parameters.data.entries, ∀ ips, entry.2 = .addresses ips →
      entry.1 = "ip4.addr" :=
    fun entry member ips same =>
      parameters.listed entry.1 ips ((parameters.data.get_eq_some_iff _ _).mpr (same ▸ member))
  rw [OnePairEach, jsonToIovec, List.append_cancel_right_eq, flatMap_eq_flatMap_iff]
  · constructor
    · intro pointwise key value held
      have member := (parameters.data.get_eq_some_iff key value).mp held
      exact (entryIovecs_eq_pair_iff key value (listed (key, value) member)).mp
        (pointwise (key, value) member)
    · intro plain entry member
      refine (entryIovecs_eq_pair_iff entry.1 entry.2 (listed entry member)).mpr ?_
      exact plain entry.1 entry.2 ((parameters.data.get_eq_some_iff _ _).mpr member)
  · intro entry member
    rw [pair_length]
    exact entryIovecs_length entry.1 entry.2 (listed entry member)

section Jails

/-- The parameters that transform_json sets for jail_set, one after the other; `host` says whether
the first network has the driver of this name. -/
def jailSettings (name path : String) (host : Bool) : List (String × Value) :=
  [("name", .text name), ("host.hostname", .text (name ++ ".jail")),
    ("path", .text (joinPath path "root")),
    ("devfs_ruleset", .int 4), ("securelevel", .int 2), if host then ("ip4", .int 2)
      else ("vnet", .bool true),
    ("sysvshm", .int 1), ("sysvmsg", .int 1), ("sysvsem", .int 1), ("persist", .bool true)]

def transformJson (name path : String) (host : Bool) : Dict String Value :=
  .assigned (jailSettings name path host)

theorem transformJson_listed (name path : String) (host : Bool) :
    Listed (transformJson name path host) := by
  intro key ips held
  have member := Dict.mem_of_get_assigned held
  cases host <;> simp [jailSettings] at member

def transformed (name path : String) (host : Bool) : ParameterMap :=
  ⟨transformJson name path host, transformJson_listed name path host⟩

theorem transformed_flagged (name path : String) (host : Bool) :
    ¬ ∀ key value, (transformed name path host).data.get key = some value → value.plain key := by
  intro plain
  have distinct : ((jailSettings name path host).map Prod.fst).Nodup := by
    cases host <;> simp [jailSettings]
  have persist : ("persist", Value.bool true) ∈ jailSettings name path host := by
    simp [jailSettings]
  exact plain "persist" (.bool true) (Dict.get_assigned_of_mem distinct persist)

/-- The jail persists by a number where the bare name is asked for. -/
theorem persist_as_number :
    entryIovecs (fun _ => none) "persist" (.bool true) = [cstring "persist", [1, 0, 0, 0]] ∧
    pair (fun _ => none) "persist" (.bool true) = [cstring "persist", []] ∧
    ¬ ∀ inetAton (parameters : ParameterMap), OnePairEach inetAton parameters.data := by
  refine ⟨by decide, by decide, fun claimed => ?_⟩
  -- the value of the tenth parameter, which is the last
  have value :=
    congrArg (fun iovecs => iovecs[19]?)
      (claimed (fun _ => none) (transformed "web" "/jails/web" false))
  exact absurd value (by decide +kernel)

end Jails

end Dockermock.Jail.Parameters
