/-
**Requests are read back.**

The body of a request is one JSON object with four members. Its names are read as themselves, whatever
the values, so the member `id` of what is read is what the id of the request is read as.

* `idOfText_encode` — if JSON can carry the parameters and the id survives a round trip (`Sendable`), the
  id is read back, whatever the method and whatever the parameters hold;
* `encode_lossless` — a request of portable parts says just these parts, in plain ASCII.
-/

import AlarmFeed.Monitor.Request
import AlarmFeed.Proofs.Json.Plain
import AlarmFeed.Proofs.Json.RoundTrip

namespace AlarmFeed.Request

/-- How deep what a request holds may be nested: the request itself is one level more. -/
def innerDepth : Nat := Json.depthLimit - 1

/-- **What a request holds can be sent**: JSON can carry the parameters, and the id survives. -/
structure Sendable (params id : Value) : Prop where
  params : Json.Carried innerDepth params
  id : Json.Survives innerDepth id

section Parts

variable {depth : Nat} {method method' : Text} {params params' id id' : Value}

theorem names_distinct : List.Nodup [("jsonrpc" : Text), "method", "params", "id"] := by decide

/-- A request is read part by part, and its names as themselves. -/
theorem readsAs_envelope (named : Json.ReadsTextAs method method')
    (inside : Json.ReadsAs depth params params') (identified : Json.ReadsAs depth id id') :
    Json.ReadsAs (depth + 1) (envelope method params id) (envelope method' params' id') := by
  have name : ∀ name : String, Json.ReadsTextAs (Text.ofString name) (Text.ofString name) :=
    fun name => Json.readsTextAs_self (Text.scalar_ofString name).unpaired
  have member : ∀ {v said : Value} (key : String), Json.ReadsAs depth v said →
      Json.ReadsMemberAs depth (Text.ofString key, v) (Text.ofString key, said) :=
    fun key valued => ⟨name key, valued⟩
  have each := List.Forall₂.cons (member "jsonrpc" (Json.readsAs_text (name "2.0")))
    (.cons (member "method" (Json.readsAs_text named))
      (.cons (member "params" inside) (.cons (member "id" identified) .nil)))
  have whole := Json.readsAs_object each
  rw [Fields.ofPairs_of_nodup] at whole
  · exact whole
  · exact names_distinct

theorem carried_envelope (method : Text) (inside : Json.Carried depth params)
    (identified : Json.Carried depth id) :
    Json.Carried (depth + 1) (envelope method params id) := by
  refine .object ?_
  intro member among
  simp only [List.mem_cons, List.not_mem_nil, or_false] at among
  rcases among with rfl | rfl | rfl | rfl
  · exact .text _
  · exact .text method
  · exact inside
  · exact identified

/-- **The id of a request is read back**, whatever the method. -/
theorem idOfText_encode (method : Text) (sendable : Sendable params id) :
    idOfText (encode method params id) = .ok id := by
  obtain ⟨method', named⟩ := Json.exists_readsTextAs method
  obtain ⟨params', inside⟩ := sendable.params.exists_readsAs
  have identified := sendable.id.readsAs (by decide)
  have levels : innerDepth + 1 ≤ Json.depthLimit := by decide
  have read := (readsAs_envelope named inside identified).read levels
  rw [idOfText, encode, read]
  rfl

theorem sendable_of_portable (inside : Json.Portable depth params) (named : Json.Portable depth id)
    (within : depth < Json.depthLimit) : Sendable params id where
  params := inside.carried.deeper (Nat.le_sub_one_of_lt within)
  id := ⟨named.carried.deeper (Nat.le_sub_one_of_lt within),
    Json.read_write named (Nat.le_of_lt within)⟩

/-- **Writing a request loses nothing**: what was written is plain ASCII, says the version, the method,
the parameters and the id in this order, and its id is read back from the text and from its bytes. -/
theorem encode_lossless (unpaired : method.Unpaired) (inside : Json.Portable depth params)
    (named : Json.Portable depth id) (within : depth < Json.depthLimit) :
    Json.read (encode method params id) =
        .ok (.object [("jsonrpc", .text "2.0"), ("method", .text method), ("params", params),
          ("id", id)]) ∧
      Json.Plain (encode method params id) ∧
      idOfText (encode method params id) = .ok id ∧
      idOfBytes (Utf8.encode (encode method params id)) = .ok id := by
  have plain : Json.Plain (encode method params id) :=
    (carried_envelope method inside.carried named.carried).plain
  have read : Json.read (encode method params id) = .ok (envelope method params id) :=
    (readsAs_envelope (Json.readsTextAs_self unpaired) inside.readsAs named.readsAs).read within
  have text : idOfText (encode method params id) = .ok id :=
    idOfText_encode method (sendable_of_portable inside named within)
  refine ⟨read, plain, text, ?_⟩
  obtain ⟨inner, written⟩ : ∃ inner, encode method params id = CodePoint.ofChar '\x7b' :: inner :=
    ⟨_, by rw [encode, envelope, Json.write]⟩
  rw [written] at plain text ⊢
  rw [idOfBytes, Json.readBytes_encode plain]
  exact text

end Parts

/-- Parameters with members named like the id, and a text that needs every kind of escape. -/
def nestedIds : Value :=
  .object [("id", .int 7), ("ids", .list [.null, .object [("id", .bool true)]]),
    ("a \"name\"\n", .text "\\ \x01 ü 😀")]

theorem portable_nestedIds : Json.Portable 3 nestedIds := by
  have short : Decimal.Short 7 := Decimal.short_of_natAbs_lt_ten (by decide)
  have single : List.Nodup [("id" : Text)] := by decide
  have inner : Json.Portable 1 (.object [("id", .bool true)]) :=
    .object_of_names single (List.forall_mem_singleton.mpr ⟨⟨_, rfl⟩, .bool true⟩)
  have distinct : List.Nodup [("id" : Text), "ids", "a \"name\"\n"] := by decide
  refine .object_of_names distinct ?_
  intro member among
  simp only [List.mem_cons, List.not_mem_nil, or_false] at among
  rcases among with rfl | rfl | rfl
  · exact ⟨⟨_, rfl⟩, .int short⟩
  · exact ⟨⟨_, rfl⟩, .list (List.forall_mem_cons.mpr ⟨.null, List.forall_mem_singleton.mpr inner⟩)⟩
  · exact ⟨⟨_, rfl⟩, .text (Text.scalar_ofString _)⟩

/-- The id is not taken from the parameters, and none of their escapes gets in its way. -/
theorem nestedIds_lossless :
    Text.Unpaired "problem.get" ∧ Json.Portable 3 nestedIds ∧ Json.Portable 3 (.text "é\n") ∧
    3 < Json.depthLimit ∧
    Json.read (encode "problem.get" nestedIds (.text "é\n")) =
        .ok (.object [("jsonrpc", .text "2.0"), ("method", .text "problem.get"),
          ("params", nestedIds), ("id", .text "é\n")]) ∧
      Json.Plain (encode "problem.get" nestedIds (.text "é\n")) ∧
      idOfText (encode "problem.get" nestedIds (.text "é\n")) = .ok (.text "é\n") ∧
      idOfBytes (Utf8.encode (encode "problem.get" nestedIds (.text "é\n"))) =
        .ok (.text "é\n") := by
  have unpaired : Text.Unpaired "problem.get" := (Text.scalar_ofString "problem.get").unpaired
  have named : Json.Portable 3 (.text "é\n") := .text (Text.scalar_ofString "é\n")
  exact ⟨unpaired, portable_nestedIds, named, by decide,
    encode_lossless unpaired portable_nestedIds named (by decide)⟩

end AlarmFeed.Request
