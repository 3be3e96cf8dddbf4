import LanguageAgent.Api.Accounts
import LanguageAgent.Gateway.JsonLoads

/-! # Between the Web UI and the API

A request may be lost on its way, and so may its response. A response that arrives is read
as it was written.
-/

namespace LanguageAgent.Site

open Api Gateway Queue Webui.Client

/-- How a request fares. -/
inductive Delivery where
  | answered
  | lost (failure : RequestFailure)
  /-- The API has handled the request when the connection fails. -/
  | unanswered (failure : RequestFailure)

/-- What the client gets for a request to an endpoint, and what the endpoint leaves. Without
    a key that can be sent the client sends nothing. -/
def Delivery.exchange {World : Type} (library : JsonLibrary) (apiKey : String)
    (endpoint : Option String → Json → World → JSONResponse × World) (body : Json) (world : World) (delivery : Delivery) :
    Webui.Client.Exchange × World :=
  match authHeaders apiKey, delivery with
  | .error _, _ => (.failed .timeout, world)
  | .ok (), .answered =>
      let (response, after) := endpoint (some apiKey) body world
      (response.exchange library.render, after)
  | .ok (), .lost failure => (.failed failure, world)
  | .ok (), .unanswered failure => (.failed failure, (endpoint (some apiKey) body world).2)

/-! ## What can be written -/

/-- What pydantic says of an error can be written, and is said under keys of its own. -/
structure Describes (library : JsonLibrary) (describe : List String → String → Dict) : Prop where
  held : ∃ depth, library.depth = depth + 5 ∧
    ∀ loc type, Json.HeldFields library.floats library.floatOf (depth + 1) (describe loc type)
  distinct : ∀ loc type, ((describe loc type).map Prod.fst).Nodup
  fresh : ∀ loc type, "type" ∉ (describe loc type).map Prod.fst ∧ "loc" ∉ (describe loc type).map Prod.fst

section Holding

variable {library : JsonLibrary} {describe : List String → String → Dict} {strOf : StrOf} {error message : String}
  {statusCode : Nat} {fields : List RequestField} {data : Dict}

theorem errorContent_held (nested : 0 < library.depth) : library.Holds (.obj (errorContent error message none)) := by
  obtain ⟨depth, same⟩ := Nat.exists_eq_succ_of_ne_zero nested.ne'
  rw [JsonLibrary.Holds, same, Nat.succ_eq_add_one, Json.Held]
  simp [errorContent, Json.HeldFields, Json.Held]

theorem errorContent_holds (describes : Describes library describe) : library.Holds (.obj (errorContent error message none)) := by
  obtain ⟨depth, same, -⟩ := describes.held
  exact errorContent_held (same ▸ Nat.succ_pos _)

/-- The errors of a body are described. -/
theorem bodyErrors_described {raised : FieldError} (reported : raised ∈ bodyErrors describe fields data) :
    raised.rest = describe raised.loc raised.type := by
  rcases List.mem_append.mp reported with ofField | other
  · obtain ⟨field, -, reported⟩ := List.mem_flatMap.mp ofField
    unfold RequestField.errors at reported
    split at reported
    · obtain ⟨problem, -, rfl⟩ := List.mem_map.mp reported
      rfl
    · split at reported
      · obtain rfl := List.mem_singleton.mp reported
        rfl
      · cases reported
  · obtain ⟨entry, -, rfl⟩ := List.mem_map.mp other
    rfl

theorem validateBody_described {body : Json} {errors : List FieldError}
    (refused : validateBody describe fields body = .error (.validation errors)) :
    ∀ raised ∈ errors, raised.rest = describe raised.loc raised.type := by
  cases body with
  | obj data =>
      unfold validateBody at refused
      dsimp only at refused
      split at refused
      · cases refused
      · cases refused
        exact fun raised => bodyErrors_described
  | _ =>
      cases refused
      intro raised member
      obtain rfl := List.mem_singleton.mp member
      rfl

/-- Errors whose descriptions can be written can be written themselves. -/
theorem validationResponse_holds (describes : Describes library describe) {errors : List FieldError}
    (described : ∀ raised ∈ errors, raised.rest = describe raised.loc raised.type) :
    library.Holds (validationExceptionHandler errors).content := by
  obtain ⟨depth, same, held⟩ := describes.held
  have places : ∀ loc : List String, Json.HeldItems library.floats library.floatOf depth (loc.map .str) := by
    intro loc
    rw [Json.heldItems_iff]
    intro item member
    obtain ⟨name, -, rfl⟩ := List.mem_map.mp member
    simp [Json.Held]
  have each : ∀ item ∈ errors.map FieldError.toJson, Json.Held library.floats library.floatOf (depth + 2) item := by
    intro item member
    obtain ⟨raised, reported, rfl⟩ := List.mem_map.mp member
    have rest := held raised.loc raised.type
    have distinct := describes.distinct raised.loc raised.type
    obtain ⟨noType, noLoc⟩ := describes.fresh raised.loc raised.type
    rw [← described raised reported] at rest distinct noType noLoc
    rw [FieldError.toJson, Json.Held]
    refine ⟨?_, ?_⟩
    · simp [distinct, noType, noLoc]
    · simp only [List.cons_append, List.nil_append, Json.HeldFields, Json.Held, true_and]
      exact ⟨places raised.loc, rest⟩
  rw [JsonLibrary.Holds, same]
  simp only [validationExceptionHandler, errorResponse, errorContent, Json.Held, Json.HeldFields, Json.heldItems_iff]
  exact ⟨by simp, trivial, trivial, ⟨by simp, each, trivial⟩, trivial⟩

end Holding

end LanguageAgent.Site
