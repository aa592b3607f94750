import SocFabric.Lib.Float64
import SocFabric.Lib.GoValue

/-!
# Go's JSON decoder

A document in which a number literal is an integer or has a fraction or an exponent, and what
`json.Unmarshal` makes of it: an `interface{}` (`toGoValue`), or a value of a given type. A decoder
of a type takes the document and the variable's value so far, which a `null` leaves alone (a slice
it makes nil); `none` is a type error. A struct reads the members of an object in order, each into the field of its name, or
else into the field whose name is the same up to case.
-/

inductive JsonDoc
  | null
  | bool (b : Bool)
  | int (n : Int)
  | float (x : Rat)
  | str (s : String)
  | arr (elems : List JsonDoc)
  | obj (members : List (String × JsonDoc))

namespace GoJson

/-! ### Into an interface -/

mutual

/-- A number without a nearest finite `float64` is an error. -/
def toGoValue : JsonDoc → Option GoValue
  | .null => some .nil
  | .bool b => some (.bool b)
  | .int n => (Float64.round n).map .float64
  | .float x => (Float64.round x).map .float64
  | .str s => some (.string s)
  | .arr elems => (toGoValues elems).map .slice
  | .obj members => (toGoEntries members).map .map

def toGoValues : List JsonDoc → Option (List GoValue)
  | [] => some []
  | d :: ds => do return (← toGoValue d) :: (← toGoValues ds)

def toGoEntries : List (String × JsonDoc) → Option (List (String × GoValue))
  | [] => some []
  | (k, d) :: ms => do return (k, ← toGoValue d) :: (← toGoEntries ms)

end

mutual

/-- Every number of the document has a nearest finite `float64`. -/
def numbersFit : JsonDoc → Bool
  | .int n => (Float64.round n).isSome
  | .float x => (Float64.round x).isSome
  | .arr elems => numbersFitAll elems
  | .obj members => numbersFitMembers members
  | _ => true

def numbersFitAll : List JsonDoc → Bool
  | [] => true
  | d :: ds => numbersFit d && numbersFitAll ds

def numbersFitMembers : List (String × JsonDoc) → Bool
  | [] => true
  | (_, d) :: ms => numbersFit d && numbersFitMembers ms

end

mutual

theorem isSome_toGoValue (d : JsonDoc) : (toGoValue d).isSome = numbersFit d := by
  cases d with
  | arr elems => simp [toGoValue, numbersFit, isSome_toGoValues elems]
  | obj members => simp [toGoValue, numbersFit, isSome_toGoEntries members]
  | _ => simp [toGoValue, numbersFit]

theorem isSome_toGoValues (ds : List JsonDoc) : (toGoValues ds).isSome = numbersFitAll ds := by
  cases ds with
  | nil => rfl
  | cons d ds =>
    rw [numbersFitAll, ← isSome_toGoValue d, ← isSome_toGoValues ds, toGoValues]
    cases toGoValue d <;> cases toGoValues ds <;> rfl

theorem isSome_toGoEntries (ms : List (String × JsonDoc)) :
    (toGoEntries ms).isSome = numbersFitMembers ms := by
  cases ms with
  | nil => rfl
  | cons m ms =>
    obtain ⟨k, d⟩ := m
    rw [numbersFitMembers, ← isSome_toGoValue d, ← isSome_toGoEntries ms, toGoEntries]
    cases toGoValue d <;> cases toGoEntries ms <;> rfl

end

theorem numbersFitMembers_iff {ms : List (String × JsonDoc)} :
    numbersFitMembers ms = true ↔ ∀ m ∈ ms, numbersFit m.2 = true := by
  induction ms with
  | nil => simp [numbersFitMembers]
  | cons m ms ih =>
    obtain ⟨k, d⟩ := m
    simp [numbersFitMembers, ih]

/-! ### Maps -/

/-- The value of a key: the last of the members that have it. -/
def lookupLast {α : Type*} (members : List (String × α)) (key : String) : Option α := members.reverse.lookup key

theorem lookup_eq_of_forall₂ {α β : Type*} {f : α → Option β} {key : String} {ms : List (String × α)}
    {es : List (String × β)} (h : List.Forall₂ (fun m e => m.1 = e.1 ∧ f m.2 = some e.2) ms es) :
    es.lookup key = (ms.lookup key).bind f := by
  induction h with
  | nil => rfl
  | @cons m e ms es hme _ ih =>
    obtain ⟨k, v⟩ := m
    obtain ⟨k', w⟩ := e
    obtain ⟨rfl, hv⟩ := hme
    rw [List.lookup_cons, List.lookup_cons]
    cases hk : key == k with
    | false => exact ih
    | true => exact hv.symm

theorem forall₂_toGoEntries {ms : List (String × JsonDoc)} {es : List (String × GoValue)}
    (h : toGoEntries ms = some es) :
    List.Forall₂ (fun m e => m.1 = e.1 ∧ toGoValue m.2 = some e.2) ms es := by
  induction ms generalizing es with
  | nil =>
    cases h
    exact .nil
  | cons m ms ih =>
    obtain ⟨k, d⟩ := m
    simp only [toGoEntries, Option.bind_eq_bind, Option.pure_def, Option.bind_eq_some_iff,
      Option.some.injEq] at h
    obtain ⟨v, hv, rest, hrest, rfl⟩ := h
    exact .cons ⟨rfl, hv⟩ (ih hrest)

/-- A key of a decoded map holds the decoded value of the key. -/
theorem lookupLast_toGoEntries {ms : List (String × JsonDoc)} {es : List (String × GoValue)}
    (h : toGoEntries ms = some es) (key : String) :
    lookupLast es key = (lookupLast ms key).bind toGoValue :=
  lookup_eq_of_forall₂ (List.rel_reverse (forall₂_toGoEntries h))

theorem exists_toGoValue {ms : List (String × JsonDoc)} {es : List (String × GoValue)}
    (h : toGoEntries ms = some es) {key : String} {d : JsonDoc} (hd : lookupLast ms key = some d) :
    ∃ v, toGoValue d = some v := by
  obtain ⟨l₁, l₂, hl, -⟩ := List.lookup_eq_some_iff.mp hd
  have hmem : (key, d) ∈ ms := by
    rw [← List.mem_reverse, hl]
    simp
  have hfit : numbersFitMembers ms = true := by rw [← isSome_toGoEntries, h, Option.isSome_some]
  have hd' := numbersFitMembers_iff.mp hfit (key, d) hmem
  rw [← isSome_toGoValue] at hd'
  exact Option.isSome_iff_exists.mp hd'

/-! ### Into a type -/

abbrev Decoder (σ : Type) := JsonDoc → σ → Option σ

def string : Decoder String
  | .null, s => some s
  | .str t, _ => some t
  | _, _ => none

def integer (lo hi : Int) : Decoder Int
  | .null, n => some n
  | .int m, _ => if lo ≤ m ∧ m ≤ hi then some m else none
  | _, _ => none

def int64 : Decoder Int := integer (-9223372036854775808) 9223372036854775807

def uint64 : Decoder UInt64 := fun d n =>
  (integer 0 18446744073709551615 d n.toNat).map fun m => UInt64.ofNat m.toNat

def uint32 : Decoder UInt32 := fun d n =>
  (integer 0 4294967295 d n.toNat).map fun m => UInt32.ofNat m.toNat

def double : Decoder Rat
  | .null, x => some x
  | .int n, _ => Float64.round n
  | .float x, _ => Float64.round x
  | _, _ => none

/-- A `map[string]interface{}`; `null` is the nil map. -/
def mapElem : JsonDoc → Option (List (String × GoValue))
  | .null => some []
  | .obj members => toGoEntries members
  | _ => none

/-- A slice of them; `null` is the nil slice, whatever was there. -/
def mapSlice : Decoder (List (List (String × GoValue)))
  | .null, _ => some []
  | .arr elems, _ => elems.mapM mapElem
  | _, _ => none

/-- Names are compared up to case; the Kelvin sign and the long s are the letters outside ASCII that
fold to ASCII. -/
def foldName (s : String) : List Char :=
  s.toList.map fun c => if c = '\u212A' then 'K' else if c = '\u017F' then 'S' else c.toUpper

variable {σ τ : Type}

def field (name : String) (get : σ → τ) (set : σ → τ → σ) (dec : Decoder τ) : String × Decoder σ :=
  (name, fun d s => (dec d (get s)).map (set s))

def findField (fields : List (String × Decoder σ)) (key : String) : Option (Decoder σ) :=
  match fields.lookup key with
  | some dec => some dec
  | none => (fields.find? fun f => foldName f.1 = foldName key).map (·.2)

def member (fields : List (String × Decoder σ)) (s : σ) (m : String × JsonDoc) : Option σ :=
  match findField fields m.1 with
  | some dec => dec m.2 s
  | none => some s

def struct (fields : List (String × Decoder σ)) : Decoder σ
  | .null, s => some s
  | .obj members, s => members.foldlM (member fields) s
  | _, _ => none

@[simp] theorem struct_obj_nil (fields : List (String × Decoder σ)) (s : σ) :
    struct fields (.obj []) s = some s :=
  rfl

theorem struct_obj_cons {fields : List (String × Decoder σ)} {key : String} {d : JsonDoc} {s : σ}
    {ms : List (String × JsonDoc)} {dec : Decoder σ} (h : findField fields key = some dec) :
    struct fields (.obj ((key, d) :: ms)) s = (dec d s).bind fun s' => struct fields (.obj ms) s' := by
  simp only [struct, List.foldlM_cons, member, h]
  rfl

/-- Members that name no field are skipped. -/
theorem struct_obj_skip {fields : List (String × Decoder σ)} {s : σ} {ms : List (String × JsonDoc)}
    (h : ∀ m ∈ ms, findField fields m.1 = none) : struct fields (.obj ms) s = some s := by
  induction ms with
  | nil => rfl
  | cons m ms ih =>
    have hm := h m List.mem_cons_self
    simp only [struct, List.foldlM_cons, member, hm]
    exact ih fun m' hm' => h m' (List.mem_cons_of_mem m hm')

/-! ### Which documents a type takes -/

/-- Whether the document is taken does not depend on the value so far. -/
def Uniform (dec : Decoder σ) : Prop := ∀ d s s', (dec d s).isSome = (dec d s').isSome

theorem uniform_string : Uniform string := by
  intro d s s'
  cases d <;> rfl

theorem uniform_integer (lo hi : Int) : Uniform (integer lo hi) := by
  intro d s s'
  cases d <;> rfl

theorem uniform_double : Uniform double := by
  intro d s s'
  cases d <;> rfl

theorem uniform_mapSlice : Uniform mapSlice := by
  intro d s s'
  cases d <;> rfl

theorem uniform_int64 : Uniform int64 := uniform_integer _ _

theorem uniform_uint64 : Uniform uint64 := by
  intro d s s'
  simp only [uint64, Option.isSome_map]
  exact uniform_integer _ _ d _ _

theorem uniform_uint32 : Uniform uint32 := by
  intro d s s'
  simp only [uint32, Option.isSome_map]
  exact uniform_integer _ _ d _ _

theorem Uniform.field {dec : Decoder τ} (h : Uniform dec) (name : String) (get : σ → τ)
    (set : σ → τ → σ) : Uniform (field name get set dec).2 := by
  intro d s s'
  simp only [GoJson.field, Option.isSome_map]
  exact h d _ _

section
variable {fields : List (String × Decoder σ)}

theorem mem_of_findField {key : String} {dec : Decoder σ} (h : findField fields key = some dec) :
    ∃ f ∈ fields, f.2 = dec := by
  unfold findField at h
  split at h
  · next dec' hlookup =>
    cases h
    obtain ⟨before, after, rfl, -⟩ := List.lookup_eq_some_iff.mp hlookup
    exact ⟨(key, dec), by simp, rfl⟩
  · obtain ⟨f, hf, rfl⟩ := Option.map_eq_some_iff.mp h
    exact ⟨f, List.mem_of_find?_eq_some hf, rfl⟩

theorem isSome_member_congr (h : ∀ f ∈ fields, Uniform f.2) (m : String × JsonDoc) (s s' : σ) :
    (member fields s m).isSome = (member fields s' m).isSome := by
  unfold member
  cases hfield : findField fields m.1 with
  | none => rfl
  | some dec =>
    obtain ⟨f, hf, rfl⟩ := mem_of_findField hfield
    exact h f hf m.2 s s'

/-- A struct takes an object if every member's field takes it. -/
theorem isSome_struct_obj_iff (h : ∀ f ∈ fields, Uniform f.2) (ms : List (String × JsonDoc)) (s : σ) :
    (struct fields (.obj ms) s).isSome = true ↔ ∀ m ∈ ms, (member fields s m).isSome = true := by
  induction ms generalizing s with
  | nil => simp
  | cons m ms ih =>
    have hcons : struct fields (.obj (m :: ms)) s =
        (member fields s m).bind fun s' => struct fields (.obj ms) s' := List.foldlM_cons
    rw [hcons, List.forall_mem_cons]
    cases hm : member fields s m with
    | none => simp
    | some s' =>
      simp only [Option.bind_some, ih s', Option.isSome_some, true_and,
        isSome_member_congr h _ s' s]

theorem uniform_struct (h : ∀ f ∈ fields, Uniform f.2) : Uniform (struct fields) := by
  intro d s s'
  cases d with
  | obj ms =>
    rw [Bool.eq_iff_iff, isSome_struct_obj_iff h, isSome_struct_obj_iff h]
    simp only [isSome_member_congr h _ s s']
  | _ => rfl

end

end GoJson
