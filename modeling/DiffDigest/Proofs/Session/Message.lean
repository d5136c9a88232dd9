import DiffDigest.Session.Message
import Mathlib.Data.List.Forall2

/-!
# Requests and their answers

A frame answers the request whose id it bears, if it brings a result or an error
and asks for nothing itself.
-/

namespace DiffDigest

namespace Message

/-! ## Answers -/

structure Answers (id : Nat) (frame : Json) : Prop where
  bears : frame.get? "id" = some (.integer id)
  word : id < Word.size64
  unnamed : ∀ method, frame.get? "method" ≠ some (.string method)
  brings : frame.get? "result" ≠ none ∨ frame.get? "error" ≠ none

/-- What a response brings: its error, unless that is null, or else its result. -/
inductive Brings (frame : Json) : Except RpcError Json → Prop
  | result (faultless : ∀ error, frame.get? "error" = some error → error = .null) :
      Brings frame (.ok ((frame.get? "result").getD .null))
  | error {error : Json} (fault : frame.get? "error" = some error) (present : error ≠ .null) :
      Brings frame (.error (.ofJson error))

theorem isNull_eq_true_iff (json : Json) : json.isNull = true ↔ json = .null := by
  cases json with
  | null => exact ⟨fun _ => rfl, fun _ => rfl⟩
  | _ => exact ⟨nofun, nofun⟩

theorem brings_outcome (frame : Json) : Brings frame (outcome frame) := by
  unfold outcome
  cases fault : frame.get? "error" with
  | none =>
      refine .result ?_
      intro error found
      rw [fault] at found
      cases found
  | some error =>
      by_cases absent : error = .null
      · subst absent
        refine .result ?_
        intro other found
        rw [fault] at found
        cases found
        rfl
      · have kept : (some error).filter (fun error => !error.isNull) = some error := by
          rw [Option.filter_some, if_pos]
          rw [Bool.not_eq_true', ← Bool.not_eq_true, isNull_eq_true_iff]
          exact absent
        rw [kept]
        exact .error fault absent

theorem bind_string?_eq_none_iff (field : Option Json) :
    field.bind Json.string? = none ↔ ∀ text, field ≠ some (.string text) := by
  cases field with
  | none => exact ⟨fun _ => nofun, fun _ => rfl⟩
  | some value =>
      cases value with
      | string text => exact ⟨nofun, fun other => absurd rfl (other text)⟩
      | _ => exact ⟨fun _ => nofun, fun _ => rfl⟩

theorem natBelow?_eq_some_iff {bound n : Nat} {json : Json} :
    json.natBelow? bound = some n ↔ json = .integer n ∧ n < bound := by
  unfold Json.natBelow?
  constructor
  · intro found
    split at found
    · split at found
      · cases found
        exact ⟨rfl, ‹_›⟩
      · cases found
    · cases found
  · rintro ⟨rfl, small⟩
    exact if_pos small

/-- A frame is sorted as a response exactly if it answers a request. -/
theorem incoming_eq_response_iff (frame body : Json) (id : Nat) :
    incoming frame = .response id body ↔ body = frame ∧ Answers id frame := by
  unfold incoming
  constructor
  · intro sorted
    split at sorted
    · cases sorted
    · rename_i given unnamed
      split at sorted
      · rename_i whole
        split at sorted
        · rename_i n read
          cases sorted
          obtain ⟨rfl, small⟩ := natBelow?_eq_some_iff.1 read
          refine ⟨rfl, given, small, (bind_string?_eq_none_iff _).1 unnamed, ?_⟩
          rwa [Bool.or_eq_true, Option.isSome_iff_ne_none, Option.isSome_iff_ne_none] at whole
        · cases sorted
      · cases sorted
    · cases sorted
    · cases sorted
  · rintro ⟨rfl, answers⟩
    have whole : ((body.get? "result").isSome || (body.get? "error").isSome) = true := by
      rw [Bool.or_eq_true, Option.isSome_iff_ne_none, Option.isSome_iff_ne_none]
      exact answers.brings
    have read : (Json.integer id).natBelow? Word.size64 = some id :=
      natBelow?_eq_some_iff.2 ⟨rfl, answers.word⟩
    rw [answers.bears, (bind_string?_eq_none_iff _).2 answers.unnamed]
    dsimp only
    rw [if_pos whole, read]

/-! ## Requests -/

/-- A frame asks for something under an id.  It may bring a result or an error all the same. -/
structure Demands (frame id : Json) (method : String) : Prop where
  bears : frame.get? "id" = some id
  named : frame.get? "method" = some (.string method)

theorem bind_string?_eq_some_iff (field : Option Json) (text : String) :
    field.bind Json.string? = some text ↔ field = some (.string text) := by
  constructor
  · intro read
    obtain ⟨value, rfl, read⟩ := Option.bind_eq_some_iff.1 read
    cases value with
    | string other =>
        cases read
        rfl
    | _ => cases read
  · rintro rfl
    rfl

/-- A frame is sorted as a request exactly if it bears an id and a method. -/
theorem incoming_eq_request_iff (frame id : Json) (method : String) :
    incoming frame = .request id method ↔ Demands frame id method := by
  unfold incoming
  constructor
  · intro sorted
    split at sorted
    · rename_i given named
      cases sorted
      exact ⟨given, (bind_string?_eq_some_iff _ _).1 named⟩
    · split at sorted
      · split at sorted <;> cases sorted
      · cases sorted
    · cases sorted
    · cases sorted
  · rintro ⟨given, named⟩
    rw [given, (bind_string?_eq_some_iff _ _).2 named]

/-- What asks for something is an answer to nothing. -/
theorem Demands.not_answers {frame id : Json} {method : String} (demands : Demands frame id method)
    (n : Nat) : ¬ Answers n frame := by
  intro answers
  exact answers.unnamed method demands.named

def requests (frames : List Json) : List (Json × String) :=
  frames.filterMap fun frame =>
    match incoming frame with
    | .request id method => some (id, method)
    | _ => none

theorem requests_append (first second : List Json) :
    requests (first ++ second) = requests first ++ requests second :=
  List.filterMap_append

theorem requests_of_demands {frame id : Json} {method : String}
    (demands : Demands frame id method) : requests [frame] = [(id, method)] := by
  unfold requests
  rw [List.filterMap_cons, (incoming_eq_request_iff frame id method).2 demands]
  rfl

theorem requests_of_silent {frame : Json} (silent : ∀ id method, ¬ Demands frame id method) :
    requests [frame] = [] := by
  unfold requests
  rw [List.filterMap_cons, List.filterMap_nil]
  split
  · rfl
  · rename_i found
    split at found
    · rename_i asked
      exact absurd ((incoming_eq_request_iff _ _ _).1 asked) (silent _ _)
    · cases found

theorem requests_request (id : Nat) (method : String) (params : Option Json) :
    requests [request id method params] = [(.integer id, method)] :=
  rfl

theorem requests_notification (method : String) (params : Option Json) :
    requests [notification method params] = [] := by
  cases params with
  | none => rfl
  | some params => rfl

/-! ## What a client conveys -/

/--
What a frame of the client conveys: the id that it bears if it is a request, its method,
and what its parameters are about.
-/
structure Conveys (id : Option Nat) (method : String) (about : Option Json → Prop) (frame : Json) :
    Prop where
  version : frame.get? "jsonrpc" = some (.string "2.0")
  numbered : frame.get? "id" = id.map fun id => .integer id
  named : frame.get? "method" = some (.string method)
  about : about (frame.get? "params")

theorem conveys_request (id : Nat) (method : String) {about : Option Json → Prop}
    {params : Option Json} (told : about params) :
    Conveys (some id) method about (request id method params) := by
  cases params with
  | none | some params => exact ⟨rfl, rfl, rfl, told⟩

theorem conveys_notification (method : String) {about : Option Json → Prop} {params : Option Json}
    (told : about params) : Conveys none method about (notification method params) := by
  cases params with
  | none | some params => exact ⟨rfl, rfl, rfl, told⟩

/-- Each of some frames is what is wanted in its place, and there are no more of them. -/
def Spells (wanted : List (Json → Prop)) (frames : List Json) : Prop :=
  List.Forall₂ (fun want frame => want frame) wanted frames

/-- What stands in parameters below some keys. -/
def below? (keys : List String) (params : Option Json) : Option Json :=
  keys.foldl (fun value key => value.bind (Json.get? · key)) params

structure Introduces (processId : Nat) (rootUri : String) (params : Option Json) : Prop where
  process : below? ["processId"] params = some (.integer processId)
  root : below? ["rootUri"] params = some (.string rootUri)

structure Presents (uri language text : String) (params : Option Json) : Prop where
  uri : below? ["textDocument", "uri"] params = some (.string uri)
  language : below? ["textDocument", "languageId"] params = some (.string language)
  text : below? ["textDocument", "text"] params = some (.string text)
  version : below? ["textDocument", "version"] params = some (.integer 1)

def RefersTo (uri : String) (params : Option Json) : Prop :=
  below? ["textDocument", "uri"] params = some (.string uri)

theorem introduces_handshakeParams (processId : Nat) (rootUri : String) :
    Introduces processId rootUri (some (handshakeParams processId rootUri)) :=
  ⟨rfl, rfl⟩

theorem presents_openParams (uri language text : String) :
    Presents uri language text (some (openParams uri language text)) :=
  ⟨rfl, rfl, rfl, rfl⟩

theorem refersTo_documentParams (uri : String) : RefersTo uri (some (documentParams uri)) :=
  rfl

/-! ## Refusals -/

/--
A reply refuses a request: it bears the id of the request, whatever that is, and
the error that the method is not known.  It is no request itself, and a client
that uses numbers for ids takes it for a response.
-/
structure Refuses (id : Json) (method : String) (reply : Json) : Prop where
  bears : reply.get? "id" = some id
  fault : ∃ error, reply.get? "error" = some error ∧
    error.get? "code" = some (.integer (-32601)) ∧
    error.get? "message" = some (.string ("Method not found: " ++ method))
  unnamed : reply.get? "method" = none
  unasking : ∀ theirs asked, incoming reply ≠ .request theirs asked
  response : ∀ n : Nat, id = .integer n → n < Word.size64 → incoming reply = .response n reply

theorem refuses_refusal (id : Json) (method : String) : Refuses id method (refusal id method) := by
  have unnamed : (refusal id method).get? "method" = none := rfl
  refine ⟨rfl, ⟨_, rfl, rfl, rfl⟩, unnamed, ?_, ?_⟩
  · intro theirs asked sorted
    have named := ((incoming_eq_request_iff _ _ _).1 sorted).named
    rw [unnamed] at named
    cases named
  · rintro n rfl small
    apply (incoming_eq_response_iff _ _ _).2
    refine ⟨rfl, rfl, small, ?_, .inr nofun⟩
    intro asked
    rw [unnamed]
    nofun

/-- Refusing a request is not a request. -/
theorem requests_refusal (id : Json) (method : String) : requests [refusal id method] = [] := by
  apply requests_of_silent
  intro theirs asked demands
  exact (refuses_refusal id method).unasking _ _ ((incoming_eq_request_iff _ _ _).2 demands)

def replies (frames : List Json) : List Json :=
  (requests frames).map fun asked => refusal asked.1 asked.2

theorem replies_append (first second : List Json) :
    replies (first ++ second) = replies first ++ replies second := by
  unfold replies
  rw [requests_append, List.map_append]

theorem requests_replies (frames : List Json) : requests (replies frames) = [] := by
  unfold replies
  induction requests frames with
  | nil => rfl
  | cons asked others ih =>
      rw [List.map_cons, ← List.singleton_append, requests_append, requests_refusal, ih]
      rfl

/--
Every request among some frames has one reply, in the order of the frames, and
no other frame has any.
-/
inductive Replies : List Json → List Json → Prop
  | nil : Replies [] []
  | answers {frame id reply : Json} {method : String} {frames replies : List Json}
      (demands : Demands frame id method) (refuses : Refuses id method reply)
      (others : Replies frames replies) : Replies (frame :: frames) (reply :: replies)
  | passes {frame : Json} {frames replies : List Json}
      (silent : ∀ id method, ¬ Demands frame id method)
      (others : Replies frames replies) : Replies (frame :: frames) replies

theorem replies_replies (frames : List Json) : Replies frames (replies frames) := by
  induction frames with
  | nil => exact .nil
  | cons frame frames ih =>
      rw [← List.singleton_append, replies_append]
      by_cases demanding : ∃ id method, Demands frame id method
      · obtain ⟨id, method, demands⟩ := demanding
        have replied : replies [frame] = [refusal id method] := by
          unfold replies
          rw [requests_of_demands demands]
          rfl
        rw [replied]
        exact .answers demands (refuses_refusal id method) ih
      · have silent : ∀ id method, ¬ Demands frame id method := by
          intro id method demands
          exact demanding ⟨id, method, demands⟩
        have replied : replies [frame] = [] := by
          unfold replies
          rw [requests_of_silent silent]
          rfl
        rw [replied]
        exact .passes silent ih

end Message

end DiffDigest
