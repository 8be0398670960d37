import Grokbotliq.Framework.Json

/-!
# JSON values as text

The compact text of a value, as `serde_json`'s `to_string` writes it: no blanks, the fields of an
object in the order in which they stand, strings escaped where JSON demands it.  What a part of a
value prints stands in what the whole prints (`Part.infix_render`), so a text cannot be told from
the numbers and strings around it.
-/

namespace Grokbotliq.Json

/-- How a character stands in a string: quote, backslash and control characters are escaped. -/
def escapeChar (c : Char) : List Char :=
  let n := c.toNat
  if n = 34 then ['\\', c]
  else if n = 92 then ['\\', c]
  else if n = 8 then ['\\', 'b']
  else if n = 9 then ['\\', 't']
  else if n = 10 then ['\\', 'n']
  else if n = 12 then ['\\', 'f']
  else if n = 13 then ['\\', 'r']
  else if n < 32 then ['\\', 'u', '0', '0', Nat.digitChar (n / 16), Nat.digitChar (n % 16)]
  else [c]

def renderString (s : String) : String :=
  "\"" ++ String.ofList (s.toList.flatMap escapeChar) ++ "\""

def Number.render : Number → String
  | posInt n => toString n.toNat
  | negInt n => toString n
  | float text => text

mutual

/-- `to_string` of a value. -/
def render : Json → String
  | null => "null"
  | bool b => if b then "true" else "false"
  | number n => n.render
  | string s => renderString s
  | array elems => "[" ++ renderElems elems ++ "]"
  | object fields => "\x7b" ++ renderFields fields ++ "\x7d"

def renderElems : List Json → String
  | [] => ""
  | [v] => render v
  | v :: vs => render v ++ "," ++ renderElems vs

def renderFields : List (String × Json) → String
  | [] => ""
  | [(key, v)] => renderString key ++ ":" ++ render v
  | (key, v) :: fields => renderString key ++ ":" ++ render v ++ "," ++ renderFields fields

end

/-! ## Parts of a value -/

/-- The first value occurs in the second. -/
inductive Part (v : Json) : Json → Prop
  | whole : Part v v
  | elem {w : Json} {elems : List Json} (h : Part v w) (hw : w ∈ elems) : Part v (array elems)
  | field {w : Json} {key : String} {fields : List (String × Json)} (h : Part v w)
      (hw : (key, w) ∈ fields) : Part v (object fields)

lemma infix_renderElems {w : Json} {elems : List Json} (h : w ∈ elems) :
    w.render.toList <:+: (renderElems elems).toList := by
  induction elems with
  | nil => exact absurd h List.not_mem_nil
  | cons v vs ih =>
      cases vs with
      | nil =>
          obtain rfl := List.mem_singleton.1 h
          exact List.infix_rfl
      | cons v' vs =>
          have hsplit : (renderElems (v :: v' :: vs)).toList =
              v.render.toList ++ ([','] ++ (renderElems (v' :: vs)).toList) := by
            rw [renderElems, String.toList_append, String.toList_append, List.append_assoc]
            · rfl
            · exact List.cons_ne_nil _ _
          rw [hsplit]
          rcases List.mem_cons.1 h with rfl | h
          · exact (List.prefix_append _ _).isInfix
          · have hrest := (List.suffix_append [','] (renderElems (v' :: vs)).toList).trans
              (List.suffix_append v.render.toList _)
            exact (ih h).trans hrest.isInfix

lemma infix_renderFields {key : String} {w : Json} {fields : List (String × Json)}
    (h : (key, w) ∈ fields) : w.render.toList <:+: (renderFields fields).toList := by
  induction fields with
  | nil => exact absurd h List.not_mem_nil
  | cons f fs ih =>
      obtain ⟨k, v⟩ := f
      have hhead : v.render.toList <:+: (renderString k ++ ":" ++ v.render).toList := by
        rw [String.toList_append]
        exact (List.suffix_append _ _).isInfix
      -- A comma stands behind every field but the last.
      cases fs with
      | nil =>
          obtain ⟨rfl, rfl⟩ := Prod.mk.inj (List.mem_singleton.1 h)
          exact hhead
      | cons f' fs =>
          have hsplit : (renderFields ((k, v) :: f' :: fs)).toList =
              (renderString k ++ ":" ++ v.render).toList ++
                ([','] ++ (renderFields (f' :: fs)).toList) := by
            rw [renderFields, String.toList_append, String.toList_append, List.append_assoc]
            · rfl
            · exact List.cons_ne_nil _ _
          rw [hsplit]
          rcases List.mem_cons.1 h with heq | h
          · obtain ⟨rfl, rfl⟩ := Prod.mk.inj heq
            exact hhead.trans (List.prefix_append _ _).isInfix
          · have hrest := (List.suffix_append [','] (renderFields (f' :: fs)).toList).trans
              (List.suffix_append (renderString k ++ ":" ++ v.render).toList _)
            exact (ih h).trans hrest.isInfix

/-- **What a part prints stands in what the whole prints.** -/
lemma Part.infix_render {v w : Json} (h : Part v w) : v.render.toList <:+: w.render.toList := by
  induction h with
  | whole => exact List.infix_rfl
  | elem _ hw ih =>
      rw [render, String.toList_append, String.toList_append]
      exact (ih.trans (infix_renderElems hw)).trans (List.infix_append _ _ _)
  | field _ hw ih =>
      rw [render, String.toList_append, String.toList_append]
      exact (ih.trans (infix_renderFields hw)).trans (List.infix_append _ _ _)

end Grokbotliq.Json
