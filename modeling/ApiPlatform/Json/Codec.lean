import ApiPlatform.Collections.SortedMap
import ApiPlatform.Json.Basic
/-!
# Typed values as JSON

A codec writes a type as JSON and reads it back, and carries the proof that reading what was
written gives the value again (`Codec.decode_encode`).  Objects with fixed keys are described one
field at a time by `Fields`; each way in which a field may be absent has its own constructor.
Unknown entries are ignored when an object is read.
-/

namespace ApiPlatform

/-- How values of `α` are written as JSON and read from it. -/
structure Codec (α : Type) where
  /-- The written form. -/
  encode : α → Json
  /-- Reads a value; `none` if the JSON does not have the form of an `α`. -/
  decode : Json → Option α
  /-- Reading what was written gives the value again. -/
  decode_encode : ∀ a, decode (encode a) = some a
  /-- No value is written as `null`, so `null` can stand for an absent field. -/
  encode_ne_null : ∀ a, encode a ≠ .null

namespace Codec

variable {α β : Type}

def string : Codec String where
  encode := .str
  decode
    | .str s => some s
    | _ => none
  decode_encode _ := rfl
  encode_ne_null _ := by simp

def bool : Codec Bool where
  encode := .bool
  decode
    | .bool b => some b
    | _ => none
  decode_encode _ := rfl
  encode_ne_null _ := by simp

/-- Whole numbers that fit in 32 bits with sign. -/
def int32 : Codec Int32 where
  encode n := .int n.toInt
  decode
    | .int n =>
      if Int32.minValue.toInt ≤ n ∧ n ≤ Int32.maxValue.toInt then some (.ofInt n) else none
    | _ => none
  decode_encode n := by
    have := Int32.minValue_le_toInt n
    simp_all [Int32.toInt_le, Int32.ofInt_toInt]
  encode_ne_null _ := by simp

/-- Whole numbers that fit in 64 bits with sign. -/
def int64 : Codec Int64 where
  encode n := .int n.toInt
  decode
    | .int n =>
      if Int64.minValue.toInt ≤ n ∧ n ≤ Int64.maxValue.toInt then some (.ofInt n) else none
    | _ => none
  decode_encode n := by
    have := Int64.minValue_le_toInt n
    simp_all [Int64.toInt_le, Int64.ofInt_toInt]
  encode_ne_null _ := by simp

/-- Reads each item; fails if one of them fails. -/
def decodeItems (c : Codec α) : List Json → Option (List α)
  | [] => some []
  | item :: rest => do
    let a ← c.decode item
    let as ← decodeItems c rest
    some (a :: as)

theorem decodeItems_map (c : Codec α) (as : List α) :
    c.decodeItems (as.map c.encode) = some as := by
  induction as with
  | nil => rfl
  | cons a as ih => simp [decodeItems, c.decode_encode, ih]

/-- Lists of values. -/
def list (c : Codec α) : Codec (List α) where
  encode as := .arr (as.map c.encode)
  decode
    | .arr items => c.decodeItems items
    | _ => none
  decode_encode as := c.decodeItems_map as
  encode_ne_null _ := by simp

/-- Reads the value of each entry; fails if one of them fails. -/
def decodeEntries (c : Codec α) : List (String × Json) → Option (List (String × α))
  | [] => some []
  | (key, value) :: rest => do
    let a ← c.decode value
    let as ← decodeEntries c rest
    some ((key, a) :: as)

theorem decodeEntries_map (c : Codec α) (es : List (String × α)) :
    c.decodeEntries (es.map fun e => (e.1, c.encode e.2)) = some es := by
  induction es with
  | nil => rfl
  | cons e es ih => simp [decodeEntries, c.decode_encode, ih]

/-- Maps from names to values, written as objects in key order. -/
def map (c : Codec α) : Codec (SortedMap String α) where
  encode m := .obj (m.entries.map fun e => (e.1, c.encode e.2))
  decode
    | .obj entries => (c.decodeEntries entries).map SortedMap.ofList
    | _ => none
  decode_encode m := by simp [decodeEntries_map, SortedMap.ofList_entries]
  encode_ne_null _ := by simp

/-- The values of `β` in the form of `α`: `pack` may refuse, but not what `unpack` gives. -/
def refine (c : Codec α) (pack : α → Option β) (unpack : β → α)
    (pack_unpack : ∀ b, pack (unpack b) = some b) : Codec β where
  encode b := c.encode (unpack b)
  decode j := (c.decode j).bind pack
  decode_encode b := by simp [c.decode_encode, pack_unpack]
  encode_ne_null b := c.encode_ne_null (unpack b)

end Codec

/-- How a part of an object is written as entries and read from them. -/
structure Fields (α : Type) where
  /-- The keys that the part owns. -/
  keys : List String
  /-- The written entries, in order. -/
  encode : α → List (String × Json)
  /-- Reads the part from the entries of an object. -/
  decode : List (String × Json) → Option α
  /-- Only owned keys are written. -/
  mem_keys : ∀ a, ∀ e ∈ encode a, e.1 ∈ keys
  /-- Reading looks at owned keys only. -/
  decode_congr : ∀ es fs, (∀ k ∈ keys, es.lookup k = fs.lookup k) → decode es = decode fs
  /-- Reading what was written gives the part again. -/
  decode_encode : ∀ a, decode (encode a) = some a

namespace Fields

variable {α β γ : Type}

/-- A field that may be absent, also as `null`. -/
def optional (key : String) (c : Codec α) : Fields (Option α) where
  keys := [key]
  encode
    | none => []
    | some a => [(key, c.encode a)]
  decode es :=
    match es.lookup key with
    | none | some .null => some none
    | some j => (c.decode j).map some
  mem_keys a := by cases a <;> simp
  decode_congr es fs h := by simp [h key (by simp)]
  decode_encode a := by
    cases a with
    | none => rfl
    | some a =>
      have := c.encode_ne_null a
      simp [c.decode_encode]

/-- A field that is always written and stands for `fallback` when it is absent or `null`. -/
def defaulted (key : String) (c : Codec α) (fallback : α) : Fields α where
  keys := [key]
  encode a := [(key, c.encode a)]
  decode es :=
    match es.lookup key with
    | none | some .null => some fallback
    | some j => c.decode j
  mem_keys a := by simp
  decode_congr es fs h := by simp [h key (by simp)]
  decode_encode a := by
    have := c.encode_ne_null a
    simp [c.decode_encode]

def required (key : String) (c : Codec α) : Fields α where
  keys := [key]
  encode a := [(key, c.encode a)]
  decode es := (es.lookup key).bind c.decode
  mem_keys a := by simp
  decode_congr es fs h := by simp [h key (by simp)]
  decode_encode a := by simp [c.decode_encode]

/-- A field that is always written and stands for `fallback` when it is absent, but may not be
`null`. -/
def absentAs (key : String) (c : Codec α) (fallback : α) : Fields α where
  keys := [key]
  encode a := [(key, c.encode a)]
  decode es :=
    match es.lookup key with
    | none => some fallback
    | some j => c.decode j
  mem_keys a := by simp
  decode_congr es fs h := by simp [h key (by simp)]
  decode_encode a := by simp [c.decode_encode]

/-- A field that is left out exactly when it holds `fallback`, and may not be `null`. -/
def omittedAs [DecidableEq α] (key : String) (c : Codec α) (fallback : α) : Fields α where
  keys := [key]
  encode a := if a = fallback then [] else [(key, c.encode a)]
  decode es :=
    match es.lookup key with
    | none => some fallback
    | some j => c.decode j
  mem_keys a := by by_cases h : a = fallback <;> simp [h]
  decode_congr es fs h := by simp [h key (by simp)]
  decode_encode a := by
    by_cases h : a = fallback
    · simp [h]
    · simp [h, c.decode_encode]

/-- An entry that is always written with the same text; an object with another one is refused. -/
def constant (key text : String) : Fields Unit where
  keys := [key]
  encode _ := [(key, .str text)]
  decode es :=
    match es.lookup key with
    | none => some ()
    | some (.str s) => if s = text then some () else none
    | some _ => none
  mem_keys a := by simp
  decode_congr es fs h := by simp [h key (by simp)]
  decode_encode a := by simp

/-- An entry that is always written with the same text and never read. -/
def label (key text : String) : Fields Unit where
  keys := [key]
  encode _ := [(key, .str text)]
  decode _ := some ()
  mem_keys a := by simp
  decode_congr es fs h := rfl
  decode_encode a := rfl

def nothing : Fields Unit where
  keys := []
  encode _ := []
  decode _ := some ()
  mem_keys a := by simp
  decode_congr es fs h := rfl
  decode_encode a := rfl

theorem lookup_append_left {es fs : List (String × Json)} {k : String}
    (h : ∀ e ∈ fs, e.1 ≠ k) : (es ++ fs).lookup k = es.lookup k := by
  induction es with
  | nil =>
    simp only [List.nil_append, List.lookup_nil]
    exact List.lookup_eq_none_iff.2 fun e he => by simpa using (h e he).symm
  | cons e es ih => obtain ⟨k', v⟩ := e; simp [List.lookup_cons, ih]

theorem lookup_append_right {es fs : List (String × Json)} {k : String}
    (h : ∀ e ∈ es, e.1 ≠ k) : (es ++ fs).lookup k = fs.lookup k := by
  induction es with
  | nil => rfl
  | cons e es ih =>
    obtain ⟨k', v⟩ := e
    have hk : (k == k') = false :=
      beq_eq_false_iff_ne.2 (Ne.symm (h (k', v) List.mem_cons_self))
    rw [List.cons_append, List.lookup_cons, hk]
    exact ih fun e he => h e (List.mem_cons_of_mem _ he)

/-- Two parts that own different keys, the first written before the second. -/
def and (f : Fields α) (g : Fields β) (disjoint : ∀ k ∈ f.keys, k ∉ g.keys := by decide) :
    Fields (α × β) where
  keys := f.keys ++ g.keys
  encode p := f.encode p.1 ++ g.encode p.2
  decode es := do
    let a ← f.decode es
    let b ← g.decode es
    some (a, b)
  mem_keys p e he := by
    rcases List.mem_append.1 he with h | h
    · exact List.mem_append.2 (.inl (f.mem_keys _ e h))
    · exact List.mem_append.2 (.inr (g.mem_keys _ e h))
  decode_congr es fs h := by
    rw [f.decode_congr es fs fun k hk => h k (List.mem_append.2 (.inl hk)),
      g.decode_congr es fs fun k hk => h k (List.mem_append.2 (.inr hk))]
  decode_encode p := by
    have hf : f.decode (f.encode p.1 ++ g.encode p.2) = some p.1 := by
      rw [f.decode_congr _ (f.encode p.1), f.decode_encode]
      intro k hk
      exact lookup_append_left fun e he h => disjoint k hk (h ▸ g.mem_keys _ e he)
    have hg : g.decode (f.encode p.1 ++ g.encode p.2) = some p.2 := by
      rw [g.decode_congr _ (g.encode p.2), g.decode_encode]
      intro k hk
      exact lookup_append_right fun e he h => disjoint k (h ▸ f.mem_keys _ e he) hk
    simp [hf, hg]

/-- The same entries for another type. -/
def iso (f : Fields α) (pack : α → β) (unpack : β → α) (pack_unpack : ∀ b, pack (unpack b) = b) :
    Fields β where
  keys := f.keys
  encode b := f.encode (unpack b)
  decode es := (f.decode es).map pack
  mem_keys b := f.mem_keys (unpack b)
  decode_congr es fs h := by rw [f.decode_congr es fs h]
  decode_encode b := by simp [f.decode_encode, pack_unpack]

/-- The codec of an object with these fields. -/
def codec (f : Fields α) : Codec α where
  encode a := .obj (f.encode a)
  decode
    | .obj entries => f.decode entries
    | _ => none
  decode_encode a := f.decode_encode a
  encode_ne_null _ := by simp

/-- The codec of an object with these fields that may also be read from the list of its leading
field values. -/
def recordCodec (f : Fields α) : Codec α where
  encode a := .obj (f.encode a)
  decode
    | .obj entries => f.decode entries
    | .arr items => if items.length ≤ f.keys.length then f.decode (f.keys.zip items) else none
    | _ => none
  decode_encode a := f.decode_encode a
  encode_ne_null _ := by simp

theorem lookup_singleton (key k : String) (j : Json) :
    [(key, j)].lookup k = if k = key then some j else none := by
  by_cases h : k = key
  · simp [h]
  · rw [List.lookup_cons, beq_eq_false_iff_ne.2 h, if_neg h]
    rfl

@[simp] theorem lookup_encode_optional (key k : String) (c : Codec α) (a : Option α) :
    ((optional key c).encode a).lookup k = if k = key then a.map c.encode else none := by
  cases a with
  | none => simp [optional]
  | some a => exact lookup_singleton key k _

@[simp] theorem lookup_encode_defaulted (key k : String) (c : Codec α) (fallback a : α) :
    ((defaulted key c fallback).encode a).lookup k =
      if k = key then some (c.encode a) else none :=
  lookup_singleton key k _

@[simp] theorem lookup_encode_required (key k : String) (c : Codec α) (a : α) :
    ((required key c).encode a).lookup k = if k = key then some (c.encode a) else none :=
  lookup_singleton key k _

@[simp] theorem lookup_encode_constant (key text k : String) (u : Unit) :
    ((constant key text).encode u).lookup k = if k = key then some (.str text) else none :=
  lookup_singleton key k _

@[simp] theorem lookup_encode_label (key text k : String) (u : Unit) :
    ((label key text).encode u).lookup k = if k = key then some (.str text) else none :=
  lookup_singleton key k _

@[simp] theorem lookup_encode_and (f : Fields α) (g : Fields β)
    (disjoint : ∀ k ∈ f.keys, k ∉ g.keys) (p : α × β) (k : String) :
    ((f.and g disjoint).encode p).lookup k =
      ((f.encode p.1).lookup k).or ((g.encode p.2).lookup k) :=
  List.lookup_append

@[simp] theorem field?_encode_iso (f : Fields α) (pack : α → β) (unpack : β → α)
    (pack_unpack : ∀ b, pack (unpack b) = b) (b : β) (k : String) :
    ((f.iso pack unpack pack_unpack).codec.encode b).field? k = (f.encode (unpack b)).lookup k :=
  rfl

end Fields

end ApiPlatform
