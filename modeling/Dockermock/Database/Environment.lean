import Dockermock.Library.Text
import Dockermock.Database.Atomicity

/-!
The env that create_container_json stores. What the user gives goes over what
the image has, and then PATH is set from a keyword argument of its own, which
create_container does not pass: so PATH is always the image's path list.
-/

namespace Dockermock.Database

open Library

def joinedPath (image : ImageJson) : String := ":".intercalate image.path

def createPath (pathsList : List String) (pathStr : String) : String :=
  Library.replace pathStr "$PATH" (":".intercalate pathsList)

/-- The env part of create_container_json, with its argument `PATH` if the caller passes one. -/
def containerEnv (image : ImageJson) (env : List (String × String)) (path : Option String) :
    List (String × String) :=
  match path with
  | some path => assign "PATH" (createPath image.path path) (mergeEnv image.env env)
  | none => assign "PATH" (joinedPath image) (mergeEnv image.env env)

/-- What a key should come to: the user's value, PATH in it expanded, or else the image's, and
the path list for a PATH that nobody gives. -/
def wantedEnv (image : ImageJson) (user : List (String × String)) (key : String) : Option String :=
  match user.lookup key with
  | some value => some (if key = "PATH" then createPath image.path value else value)
  | none =>
      match image.env.lookup key with
      | some value => some value
      | none => if key = "PATH" then some (joinedPath image) else none

def Merged (image : ImageJson) (user env : List (String × String)) : Prop :=
  ∀ key, env.lookup key = wantedEnv image user key

/-- Any PATH that counts comes to the path list. -/
structure PathAgrees (image : ImageJson) (user : List (String × String)) : Prop where
  given : ∀ value, user.lookup "PATH" = some value → createPath image.path value = joinedPath image
  inherited : user.lookup "PATH" = none → ∀ value, image.env.lookup "PATH" = some value →
    value = joinedPath image

theorem createContainerJson_env {host : Host} {image : ImageJson} {request : Request}
    {config : Config} (made : createContainerJson host image request = some config) :
    config.env = containerEnv image request.env none := by
  rcases Option.bind_eq_some_iff.mp made with ⟨volumes, _, made⟩
  rcases Option.bind_eq_some_iff.mp made with ⟨userMounts, _, made⟩
  rcases Option.bind_eq_some_iff.mp made with ⟨mounts, _, made⟩
  rcases Option.ite_none_right_eq_some.mp made with ⟨_, same⟩
  rw [← Option.some.inj same]
  rfl

section Merging

variable {image : ImageJson} {user : List (String × String)} (distinct : (user.map Prod.fst).Nodup)
include distinct

theorem lookup_mergeEnv (key : String) :
    (mergeEnv image.env user).lookup key = (user.lookup key).or (image.env.lookup key) := by
  cases given : user.lookup key with
  | some value =>
      have member := (lookup_eq_some_iff_mem user distinct key value).mp given
      exact lookup_assignAll_of_mem user image.env distinct key value member
  | none =>
      have absent : key ∉ user.map Prod.fst := by
        intro listed
        rcases List.mem_map.mp listed with ⟨⟨_, value⟩, member, rfl⟩
        have found := (lookup_eq_some_iff_mem user distinct _ value).mpr member
        rw [given] at found
        cases found
      exact lookup_assignAll_of_absent user image.env key absent

theorem lookup_containerEnv (key : String) :
    (containerEnv image user none).lookup key =
      if key = "PATH" then some (joinedPath image)
          else (user.lookup key).or (image.env.lookup key) := by
  rw [containerEnv, lookup_assign]
  by_cases path : key = "PATH"
  · rw [if_pos path, if_pos path]
  · rw [if_neg path, if_neg path, lookup_mergeEnv distinct]

theorem merged_iff_path :
    Merged image user (containerEnv image user none) ↔
        wantedEnv image user "PATH" = some (joinedPath image) := by
  constructor
  · intro merged
    rw [← merged "PATH", lookup_containerEnv distinct, if_pos rfl]
  · intro wanted key
    rw [lookup_containerEnv distinct]
    by_cases path : key = "PATH"
    · rw [if_pos path, path, wanted]
    · rw [if_neg path, wantedEnv]
      cases user.lookup key with
      | some value => simp [path]
      | none => cases image.env.lookup key <;> simp [path]

end Merging

theorem wantedEnv_path_iff (image : ImageJson) (user : List (String × String)) :
    wantedEnv image user "PATH" = some (joinedPath image) ↔ PathAgrees image user := by
  rw [wantedEnv]
  cases given : user.lookup "PATH" with
  | some value =>
      simp only [if_true, Option.some.injEq]
      constructor
      · intro same
        refine ⟨fun other found => ?_, fun absent => ?_⟩
        · rw [given] at found
          cases found
          exact same
        · rw [given] at absent
          cases absent
      · intro agrees
        exact agrees.given value given
  | none =>
      constructor
      · intro wanted
        refine ⟨fun other found => ?_, fun _ value inherited => ?_⟩
        · rw [given] at found
          cases found
        · rw [inherited] at wanted
          exact Option.some.inj wanted
      · intro agrees
        cases inherited : image.env.lookup "PATH" with
        | some value => exact congrArg some (agrees.inherited given value inherited)
        | none => rfl

/-- The stored env merges those of the image and the user exactly when the PATH that counts, if
there is one, comes to the image's path list. -/
theorem createContainerJson_merged_iff (host : Host) (image : ImageJson) (request : Request)
    (config : Config) (made : createContainerJson host image request = some config)
    (distinct : (request.env.map Prod.fst).Nodup) :
    Merged image request.env config.env ↔ PathAgrees image request.env := by
  rw [createContainerJson_env made, merged_iff_path distinct, wantedEnv_path_iff]

section Example

def binImage : ImageJson := ⟨["sh"], [], ["/bin", "/sbin"], [("LANG", "C")], none, none, some []⟩

def envRequest (env : List (String × String)) : Request :=
  { alpineRequest "web" [] with env := env }

theorem createContainerJson_merged_iff_lang :
    ∃ config, createContainerJson workingHost binImage (envRequest [("LANG", "de")]) = some config ∧
      Merged binImage [("LANG", "de")] config.env :=
  ⟨_, rfl, (createContainerJson_merged_iff workingHost binImage (envRequest [("LANG", "de")]) _ rfl
    (by decide)).mpr ⟨nofun, fun _ => nofun⟩⟩

/-- The user's PATH is lost. -/
theorem user_path_lost :
    ¬ ∀ host image request config, createContainerJson host image request = some config →
      (request.env.map Prod.fst).Nodup → Merged image request.env config.env := by
  intro claimed
  have made : ∃ config, createContainerJson workingHost binImage
      (envRequest [("PATH", "/opt/bin:$PATH")]) = some config :=
    ⟨_, rfl⟩
  rcases made with ⟨config, made⟩
  have merged := claimed workingHost binImage (envRequest [("PATH", "/opt/bin:$PATH")]) config made
    (by decide) "PATH"
  rw [createContainerJson_env made] at merged
  exact absurd merged (by decide +kernel)

end Example

end Dockermock.Database
