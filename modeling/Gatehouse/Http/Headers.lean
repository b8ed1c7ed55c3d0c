import Gatehouse.Bytes
import Gatehouse.Text.Ascii
import Gatehouse.Http.Token

/-!
# Header lists

A header list keeps every field in the order of arrival, so a name may have
several values. Names are kept in lower case. All operations are described
through one view, `Headers.values`: the values of a name, in order.

`append` adds a value and keeps those there are, `insert` leaves the new
value as the only one, and `erase` leaves none; none of the three touches
any other name.
-/

namespace Gatehouse.Http

open Text

/-- One header field. -/
structure Field where
  /-- The name, in lower case. -/
  name : String
  /-- The value, without its line ending. -/
  value : Bytes
deriving DecidableEq, Inhabited

/-- A header list. -/
structure Headers where
  fields : List Field
deriving DecidableEq, Inhabited

namespace Headers

/-- The list without fields. -/
def empty : Headers := ⟨[]⟩

/-- The values of a name, in order. -/
def values (h : Headers) (name : String) : List Bytes :=
  (h.fields.filter (·.name = name)).map (·.value)

/-- The first value of a name. -/
def get? (h : Headers) (name : String) : Option Bytes :=
  (h.values name).head?

/-- Whether there is a field of the name. -/
def contains (h : Headers) (name : String) : Bool :=
  h.fields.any (·.name = name)

/-- The first value of a name, if it can be read as text. -/
def text? (h : Headers) (name : String) : Option String :=
  (h.get? name).bind Bytes.text?

/-- Adds a field behind all others. -/
def append (h : Headers) (name : String) (value : Bytes) : Headers :=
  ⟨h.fields ++ [⟨name, value⟩]⟩

/-- Removes all fields of a name. -/
def erase (h : Headers) (name : String) : Headers :=
  ⟨h.fields.filter (·.name ≠ name)⟩

/-- Makes a value the only one of its name. -/
def insert (h : Headers) (name : String) (value : Bytes) : Headers :=
  (h.erase name).append name value

/-- Removes all fields of all the given names. -/
def eraseAll (h : Headers) (names : List String) : Headers :=
  names.foldl erase h

@[simp] theorem values_empty (n : String) : empty.values n = [] := rfl

@[simp] theorem values_append (h : Headers) (n : String) (v : Bytes) (m : String) :
    (h.append n v).values m = h.values m ++ if n = m then [v] else [] := by
  by_cases e : n = m <;> simp [values, append, e]

@[simp] theorem values_erase (h : Headers) (n m : String) :
    (h.erase n).values m = if n = m then [] else h.values m := by
  unfold values erase
  by_cases e : n = m
  · subst e; simp
  · rw [if_neg e, List.filter_filter]
    congr 1
    apply List.filter_congr
    intro f _
    by_cases hm : f.name = m
    · simp [hm, Ne.symm e]
    · simp [hm]

@[simp] theorem values_insert (h : Headers) (n : String) (v : Bytes) (m : String) :
    (h.insert n v).values m = if n = m then [v] else h.values m := by
  unfold insert
  by_cases e : n = m <;> simp [e]

theorem contains_eq_true_iff {h : Headers} {n : String} :
    h.contains n = true ↔ h.values n ≠ [] := by
  unfold contains values
  rw [List.any_eq_true]
  simp [List.filter_eq_nil_iff]

/-- Erasing names leaves the values of the other names alone. -/
theorem values_eraseAll (h : Headers) (ns : List String) (m : String) :
    (h.eraseAll ns).values m = if m ∈ ns then [] else h.values m := by
  unfold eraseAll
  induction ns generalizing h with
  | nil => simp
  | cons n ns ih =>
    rw [List.foldl_cons, ih]
    by_cases e : n = m
    · subst e; simp
    · simp [e, Ne.symm e]

end Headers

/-- The lower-case form of a text that is a header name. -/
def fieldName? (s : String) : Option String :=
  if isToken s then some (lower s) else none

/-- Whether a byte may stand in a header value: anything but a control, the
tab excepted. -/
def isValueByte (b : UInt8) : Bool :=
  (32 ≤ b.toNat && b.toNat != 127) || b.toNat == 9

/-- The bytes, if they may be the value of a header. -/
def fieldValue? (b : Bytes) : Option Bytes :=
  if b.all isValueByte then some b else none

end Gatehouse.Http
