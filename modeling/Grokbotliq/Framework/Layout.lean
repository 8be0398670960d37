import Grokbotliq.Framework.Wire

/-!
# Fixed-size layouts

A `Layout α` writes the values of `α` in one number of bytes, that number being a field of the
structure.  Layouts are put together as the declarations of such a format put them together:
integers and byte strings, arrays, and records of named fields in order.

Where a decoder reads a fixed offset, the question is which part of the value stands there.
`At data off L a` says that `a`, laid out by `L`, stands at `off`; `At.field` and `At.elem` go
from a record to a named field and from an array to an element, adding up offsets, and
`At.take_drop` hands over the bytes themselves.

Nothing here fixes an offset.  A field is named and its offset is the sum of the widths of the
fields before it (`locate`), so that where a part stands is computed from the declarations and can
be compared with a number that was written down elsewhere.
-/

namespace Grokbotliq

open Wire

/-- A way to write the values of a type in a fixed number of bytes. -/
structure Layout (α : Type*) where
  size : ℕ
  encode : α → List UInt8
  length_encode : ∀ a, (encode a).length = size

namespace Layout

variable {α β : Type*}

/-- An unsigned integer of `w` bytes, least significant first. -/
def uint (w : ℕ) (toNat : α → ℕ) : Layout α := ⟨w, fun a => leBytes w (toNat a),
  fun a => length_leBytes w (toNat a)⟩

/-- A string of `n` bytes. -/
def blob (n : ℕ) (bytes : α → List UInt8) (h : ∀ a, (bytes a).length = n) : Layout α :=
  ⟨n, bytes, h⟩

/-- The part of a value that `f` takes, laid out by `L`. -/
def of (L : Layout β) (f : α → β) : Layout α := ⟨L.size, fun a => L.encode (f a),
  fun a => L.length_encode (f a)⟩

/-- `n` values one after another. -/
def array (L : Layout α) (n : ℕ) : Layout (Vector α n) where
  size := n * L.size
  encode v := v.toList.flatMap L.encode
  length_encode v := by
    rw [List.length_flatMap, List.map_congr_left fun a _ => L.length_encode a]
    simp

/-- Named fields one after another. -/
def record (fields : List (String × Layout α)) : Layout α where
  size := (fields.map fun f => f.2.size).sum
  encode a := fields.flatMap fun f => f.2.encode a
  length_encode a := by
    rw [List.length_flatMap, List.map_congr_left fun f _ => f.2.length_encode a]

/-- The offset of a named field within its record, and its layout. -/
def locate : List (String × Layout α) → String → Option (ℕ × Layout α)
  | [], _ => none
  | f :: fields, name =>
    if f.1 = name then some (0, f.2)
    else (locate fields name).map fun p => (f.2.size + p.1, p.2)

/-! ## What stands where -/

/-- The bytes at `off` are those of `a`. -/
def At (data : List UInt8) (off : ℕ) (L : Layout α) (a : α) : Prop :=
  ∃ front back, data = front ++ L.encode a ++ back ∧ front.length = off

variable {data : List UInt8} {off : ℕ} {a : α}

lemma at_append (front : List UInt8) (L : Layout α) (a : α) :
    At (front ++ L.encode a) front.length L a := ⟨front, [], by simp, rfl⟩

/-- The part that `f` takes of a value stands where it is laid out. -/
lemma At.inside {L : Layout β} {f : α → β} (h : At data off (L.of f) a) :
    At data off L (f a) := h

lemma exists_of_locate {name : String} {o : ℕ} {F : Layout α} (a : α) :
    ∀ {fields : List (String × Layout α)}, locate fields name = some (o, F) →
      ∃ front back, (record fields).encode a = front ++ F.encode a ++ back ∧ front.length = o
  | [], h => absurd h (by simp [locate])
  | f :: fields, h => by
      rw [locate] at h
      split_ifs at h
      · obtain ⟨rfl, rfl⟩ : 0 = o ∧ f.2 = F := by simpa using h
        exact ⟨[], (record fields).encode a, rfl, rfl⟩
      · obtain ⟨p, hp, hpair⟩ := Option.map_eq_some_iff.1 h
        obtain ⟨rfl, rfl⟩ : f.2.size + p.1 = o ∧ p.2 = F := by simpa using hpair
        obtain ⟨front, back, hencode, hlen⟩ := exists_of_locate a hp
        refine ⟨f.2.encode a ++ front, back, ?_, ?_⟩
        · have hcons : (record (f :: fields)).encode a =
              f.2.encode a ++ (record fields).encode a := rfl
          rw [hcons, hencode, List.append_assoc, List.append_assoc, List.append_assoc]
        · rw [List.length_append, f.2.length_encode, hlen]

/-- **From a record to its field.** -/
lemma At.field {fields : List (String × Layout α)} (h : At data off (record fields) a)
    (name : String) {o : ℕ} {F : Layout α} (hloc : locate fields name = some (o, F)) :
    At data (off + o) F a := by
  obtain ⟨front, back, rfl, rfl⟩ := h
  obtain ⟨front', back', hencode, rfl⟩ := exists_of_locate a hloc
  refine ⟨front ++ front', back' ++ back, ?_, List.length_append⟩
  rw [hencode]
  simp only [List.append_assoc]

/-- **From an array to its element.** -/
lemma At.elem {L : Layout α} {n : ℕ} {v : Vector α n} (h : At data off (array L n) v) (i : ℕ)
    (hi : i < n) : At data (off + i * L.size) L v[i] := by
  obtain ⟨front, back, rfl, rfl⟩ := h
  have hi' : i < v.toList.length := by rwa [Vector.length_toList]
  have hsplit : v.toList = v.toList.take i ++ v[i] :: v.toList.drop (i + 1) := by
    rw [← Vector.getElem_toList hi', ← List.drop_eq_getElem_cons hi', List.take_append_drop]
  have hfront : ((v.toList.take i).flatMap L.encode).length = i * L.size := by
    rw [List.length_flatMap, List.map_congr_left fun a _ => L.length_encode a]
    simp [hi.le]
  have hencode : (array L n).encode v = (v.toList.take i).flatMap L.encode ++
      (L.encode v[i] ++ (v.toList.drop (i + 1)).flatMap L.encode) := by
    change v.toList.flatMap L.encode = _
    rw [hsplit, List.flatMap_append, List.flatMap_cons, ← hsplit]
  refine ⟨front ++ (v.toList.take i).flatMap L.encode,
    (v.toList.drop (i + 1)).flatMap L.encode ++ back, ?_, ?_⟩
  · rw [hencode]
    simp only [List.append_assoc]
  · rw [List.length_append, hfront]

/-- **The bytes at the offset of a value are its own.** -/
lemma At.take_drop {L : Layout α} (h : At data off L a) :
    (data.drop off).take L.size = L.encode a := by
  obtain ⟨front, back, rfl, rfl⟩ := h
  rw [List.append_assoc, List.drop_left, ← L.length_encode a, List.take_left]

lemma At.le_length {L : Layout α} (h : At data off L a) : off + L.size ≤ data.length := by
  obtain ⟨front, back, rfl, rfl⟩ := h
  rw [List.length_append, List.length_append, L.length_encode]
  exact Nat.le_add_right _ _

end Layout

end Grokbotliq
