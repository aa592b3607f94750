import SocFabric.Lib.Masked
import SocFabric.Lib.Substitution

/-!
# The filter of the access log (`interfaces/main.py`)

`AnonymizePIIFilter` rewrites a record before it is formatted: the first argument by a pattern that
is tied to its start, and the template, if it is text, by a pattern for addresses anywhere and one for
the host of a URL. `layout` is the message of the record in which all that these patterns match is
masked, and what a reader sees of the rewritten record is that message (`layout_char`): the patterns
do not get into each other's way, nor into the way of the conversions.
-/

namespace SocFabric
namespace AccessLog
open Masked PercentFormat Substitution

-- A statement about all characters of a text is decided over the text, not over all characters.
scoped instance decidableForallText (p : Char → Prop) [DecidablePred p] (s : List Char) :
    Decidable (∀ c ∈ s, p c) :=
  List.decidableBAll p s

scoped instance decidableForallAt (p : Char → Prop) [DecidablePred p] (o : Option Char) :
    Decidable (∀ c ∈ o, p c) :=
  Option.decidableForallMem o

/-! ### The filter -/

/-- The tables that `re` and `repr` look characters up in: decimal digits, letters and digits, and the
printable characters outside ASCII. -/
structure Unicode where
  decimal : Char → Bool
  alnum : Char → Bool
  printable : Char → Bool
  decimal_ascii : ∀ c : Char, c.toNat < 128 → decimal c = c.isDigit
  alnum_ascii : ∀ c : Char, c.toNat < 128 → alnum c = c.isAlphanum

namespace Unicode

def word (U : Unicode) (c : Char) : Bool := U.alnum c || c = '_'

/-- The tables as far as ASCII. -/
def ascii : Unicode where
  decimal := Char.isDigit
  alnum := Char.isAlphanum
  printable _ := false
  decimal_ascii _ _ := rfl
  alnum_ascii _ _ := rfl

end Unicode

inductive Msg
  | str (s : List Char)
  -- another object, by its `str`
  | other (str : Option (List Char))

inductive Args
  | tuple (args : List (Arg Char))
  -- a mapping, or nothing at all, by what a template is merged with it to
  | other (merge : List Char → Option (List Char))

structure LogRecord where
  msg : Msg
  args : Args

/-- `template % args`, or the template where there are no arguments (`LogRecord.getMessage`). -/
def merge {α : Type} [Glyph α] (U : Unicode) (t : List α) (args : List (Arg α)) : Option (List α) :=
  match args with
  | [] => some t
  | args => percent U.printable none t args

def LogRecord.getMessage (U : Unicode) (r : LogRecord) : Option (List Char) :=
  (match r.msg with
    | .str s => some s
    | .other str => str).bind fun t =>
      match r.args with
      | .tuple args => merge U t args
      | .other merge => merge t

/-- `\d{1,3}\.` -/
def octetDot (U : Unicode) : List Item := [.run U.decimal 1 (some 3), one (· = '.')]

def threeOctets (U : Unicode) : List Item := octetDot U ++ octetDot U ++ octetDot U

/-- `^\d{1,3}\.\d{1,3}\.\d{1,3}\.` -/
def headPattern (U : Unicode) : List Item := .start :: threeOctets U

/-- `\b\d{1,3}\.\d{1,3}\.\d{1,3}\.` -/
def inlinePattern (U : Unicode) : List Item := .boundary U.word :: threeOctets U

def hostChar (c : Char) : Bool := c.isAlphanum || c = '-' || c = '.' || c = '_'

def labelChar (c : Char) : Bool := c.isAlphanum || c = '-'

/-- `(https?://)` -/
def scheme : List Item := lit "http" ++ [.run (· = 's') 0 (some 1)] ++ lit "://"

/-- `[a-zA-Z0-9][a-zA-Z0-9-._]+` -/
def host : List Item := [one Char.isAlphanum, .run hostChar 1 none]

/-- `(\.[a-zA-Z0-9-]+)` -/
def domain : List Item := [one (· = '.'), .run labelChar 1 none]

def urlPattern : List Item := scheme ++ host ++ domain

def octetMask : List Char := "***.***.***.".toList

def hostMask : List Char := "*******************".toList

/-- The first group, the mask and the second group. -/
def maskUrl (ws : List (List Char)) : List Char :=
  (ws.take scheme.length).flatten ++ hostMask ++ (ws.drop (scheme ++ host).length).flatten

def maskHead (U : Unicode) (s : List Char) : List Char := sub (headPattern U) (fun _ => octetMask) s

def maskMsg (U : Unicode) (s : List Char) : List Char :=
  sub urlPattern maskUrl (sub (inlinePattern U) (fun _ => octetMask) s)

def maskArgs (U : Unicode) : List (Arg Char) → List (Arg Char)
  | .str s :: args => .str (maskHead U s) :: args
  | args => args

/-- `AnonymizePIIFilter.filter`: the record as it is changed, and that it is to be logged. -/
def filter (U : Unicode) (r : LogRecord) : LogRecord × Bool :=
  let args :=
    match r.args with
    | .tuple args => .tuple (maskArgs U args)
    | args => args
  let msg :=
    match r.msg with
    | .str s => .str (maskMsg U s)
    | msg => msg
  ({ msg := msg, args := args }, true)

/-! ### What the patterns leave in sight -/

/-- A match of the URL pattern with its host masked. -/
def coverMatch (ws : List (List Char)) : List Cell :=
  (ws.take scheme.length).flatten.map .template ++ hostMask.map .mask ++
    (ws.drop (scheme ++ host).length).flatten.map .template

/-- A stretch of a template in which hosts of URLs are masked. -/
def coverUrl (g : List Char) : List Cell := assemble (List.map .template) coverMatch (split urlPattern g)

/-- A template in which what the two patterns match is masked. -/
def coverMsg (U : Unicode) (t : List Char) : List Cell :=
  assemble coverUrl (fun _ => octetMask.map .mask) (split (inlinePattern U) t)

def coverHead (U : Unicode) (s : List Char) : List Cell :=
  assemble (List.map .argument) (fun _ => octetMask.map .mask) (split (headPattern U) s)

/-- Arguments in which the first three numbers of a first one are masked. -/
def coverArgs (U : Unicode) : List (Arg Char) → List (Arg Cell)
  | .str s :: args => .str (coverHead U s) :: args.map (Arg.map .argument)
  | args => args.map (Arg.map .argument)

/-- The message of template and arguments in which what the patterns match is masked. -/
def layout (U : Unicode) (t : List Char) (args : List (Arg Char)) : Option (List Cell) :=
  merge U (coverMsg U t) (coverArgs U args)

section
variable {U : Unicode} {t : List Char} {args : List (Arg Char)}

theorem map_char_template (s : List Char) : (s.map Cell.template).map Cell.char = s := by
  rw [List.map_map]
  exact List.map_id s

theorem map_char_argument (s : List Char) : (s.map Cell.argument).map Cell.char = s := by
  rw [List.map_map]
  exact List.map_id s

theorem map_char_mask (s : List Char) : (s.map Cell.mask).map Cell.char = s := by
  rw [List.map_map]
  exact List.map_id s

/-! ### Both ways of masking -/

theorem stops_urlPattern {v : List Char} (hv : ∀ x ∈ v.head?, x = '*') : Stops v urlPattern := by
  have hcls : ∀ cls : Char → Bool, cls '*' = false → ∀ x ∈ v.head?, cls x = false :=
    fun cls hstar x hx => hv x hx ▸ hstar
  have hlit : ∀ s : String, '*' ∉ s.toList → ∀ x ∈ v.head?, x ∉ s.toList :=
    fun s hstar x hx => hv x hx ▸ hstar
  have hscheme : Stops v scheme :=
    ((stops_lit (hlit "http" (by decide))).append (stops_run (hcls _ rfl))).append
      (stops_lit (hlit "://" (by decide)))
  have hhost : Stops v host := (stops_run (hcls _ rfl)).append (stops_run (hcls _ rfl))
  have hdomain : Stops v domain := (stops_run (hcls _ rfl)).append (stops_run (hcls _ rfl))
  exact (hscheme.append hhost).append hdomain

theorem stops_urlPattern_nil : Stops [] urlPattern := stops_urlPattern fun _ hx => nomatch hx

theorem proper_urlPattern : Proper urlPattern :=
  proper_of_mem (List.mem_append_right _ (List.mem_cons_of_mem _ List.mem_cons_self))

theorem coverUrl_char (g : List Char) : (coverUrl g).map Cell.char = sub urlPattern maskUrl g := by
  rw [coverUrl, map_assemble, sub]
  refine congrArg₂ (fun keep replace => assemble keep replace _) (funext map_char_template)
    (funext fun ws => ?_)
  rw [coverMatch, List.map_append, List.map_append, map_char_template, map_char_mask, map_char_template,
    maskUrl]

/-- The URL pattern does not reach over the mask of an address. -/
theorem sub_urlPattern_mask (u v : List Char) :
    sub urlPattern maskUrl (u ++ (octetMask ++ v)) =
      sub urlPattern maskUrl u ++ (octetMask ++ sub urlPattern maskUrl v) := by
  have hmask : octetMask = '*' :: "**.***.***.".toList := rfl
  have hpass : ∀ c ∈ "**.***.***.".toList, decide (c = 'h') = false := by decide
  have hstop : Stops ('*' :: ("**.***.***.".toList ++ v)) urlPattern :=
    stops_urlPattern fun x hx => (Option.mem_some.mp hx).symm
  rw [hmask, List.cons_append, sub_append_cons proper_urlPattern hstop stops_urlPattern_nil]
  exact congrArg (sub urlPattern maskUrl u ++ '*' :: ·) (sub_append_of_forall stops_urlPattern_nil hpass)

theorem sub_urlPattern_assemble (r : Cut) :
    sub urlPattern maskUrl (assemble id (fun _ => octetMask) r) =
      assemble (sub urlPattern maskUrl) (fun _ => octetMask) r := by
  obtain ⟨g, ms⟩ := r
  show sub urlPattern maskUrl (g ++ ms.flatMap fun m => octetMask ++ m.2) =
    sub urlPattern maskUrl g ++ ms.flatMap fun m => octetMask ++ sub urlPattern maskUrl m.2
  induction ms generalizing g with
  | nil => rw [List.flatMap_nil, List.flatMap_nil, List.append_nil, List.append_nil]
  | cons m ms ih =>
    rw [List.flatMap_cons, List.flatMap_cons, List.append_assoc, sub_urlPattern_mask, ih m.2,
      List.append_assoc]

theorem coverMsg_char (t : List Char) : (coverMsg U t).map Cell.char = maskMsg U t := by
  have hcover : (coverMsg U t).map Cell.char =
      assemble (sub urlPattern maskUrl) (fun _ => octetMask) (split (inlinePattern U) t) := by
    rw [coverMsg, map_assemble]
    exact congrArg₂ (fun keep replace => assemble keep replace _) (funext coverUrl_char)
      (funext fun _ => map_char_mask octetMask)
  exact hcover.trans (sub_urlPattern_assemble _).symm

theorem coverHead_char (s : List Char) : (coverHead U s).map Cell.char = maskHead U s := by
  rw [coverHead, map_assemble]
  exact congrArg₂ (fun keep replace => assemble keep replace _) (funext map_char_argument)
    (funext fun _ => map_char_mask octetMask)

theorem map_char_arg (a : Arg Char) : (a.map Cell.argument).map Cell.char = a := by
  cases a with
  | str s => exact congrArg Arg.str (map_char_argument s)
  | other o => rfl

theorem coverArgs_char (args : List (Arg Char)) :
    (coverArgs U args).map (Arg.map Cell.char) = maskArgs U args := by
  have hrest : ∀ as : List (Arg Char), (as.map (Arg.map Cell.argument)).map (Arg.map Cell.char) = as := by
    intro as
    rw [List.map_map]
    exact List.map_id'' map_char_arg as
  cases args with
  | nil => rfl
  | cons a args =>
    cases a with
    | other o => exact hrest _
    | str s => exact congrArg₂ (fun s as => .str s :: as) (coverHead_char s) (hrest args)

theorem sealed_octetMask : Sealed (octetMask.map .mask) :=
  .star (.star (.dot (.star (.star (.dot (.star (.star (.dot .nil))))))))

theorem sealed_hostMask : Sealed (hostMask.map .mask) := .stars (by decide)

theorem covered_coverUrl (g : List Char) : Covered (coverUrl g) :=
  assemble_induction (fun _ _ => .append) .nil .map_template
    (fun _ => ((Covered.map_template _).append (.mask sealed_hostMask)).append (.map_template _)) _

theorem covered_coverMsg (t : List Char) : Covered (coverMsg U t) :=
  assemble_induction (fun _ _ => .append) .nil covered_coverUrl (fun _ => .mask sealed_octetMask) _

theorem sealed_coverHead (s : List Char) : Sealed (coverHead U s) :=
  assemble_induction (fun _ _ => .append) .nil .map_argument (fun _ => sealed_octetMask) _

theorem sealed_coverArgs : ∀ a ∈ coverArgs U args, ∀ s, a = .str s → Sealed s := by
  have hplain : ∀ as : List (Arg Char), ∀ a ∈ as.map (Arg.map Cell.argument), ∀ s, a = .str s → Sealed s := by
    rintro as a ha s rfl
    obtain ⟨b, -, hb⟩ := List.mem_map.mp ha
    cases b with
    | str s' =>
      cases hb
      exact .map_argument s'
    | other o => cases hb
  cases args with
  | nil => exact hplain []
  | cons b args =>
    cases b with
    | other o => exact hplain _
    | str s' =>
      intro a ha s hs
      rcases List.mem_cons.mp ha with rfl | ha
      · cases hs
        exact sealed_coverHead s'
      · exact hplain args a ha s hs

theorem merge_map_char {t : List Cell} {args : List (Arg Cell)} (ht : Covered t)
    (hargs : ∀ a ∈ args, ∀ s, a = .str s → Sealed s) :
    merge U (t.map Cell.char) (args.map (Arg.map Cell.char)) = (merge U t args).map (List.map Cell.char) := by
  cases args with
  | nil => rfl
  | cons a args => exact percent_map_char ht none hargs

theorem sealed_merge {t m : List Cell} {args : List (Arg Cell)} (ht : Covered t)
    (hargs : ∀ a ∈ args, ∀ s, a = .str s → Sealed s) (hm : merge U t args = some m) : Sealed m := by
  cases args with
  | nil =>
    cases hm
    exact ht.toSealed
  | cons a args => exact sealed_percent ht hargs hm

/-- What a reader sees of the changed record is the message with the matches masked. -/
theorem layout_char (t : List Char) (args : List (Arg Char)) :
    merge U (maskMsg U t) (maskArgs U args) = (layout U t args).map (List.map Cell.char) := by
  rw [← coverMsg_char, ← coverArgs_char]
  exact merge_map_char (covered_coverMsg t) sealed_coverArgs

theorem sealed_layout {m : List Cell} (hm : layout U t args = some m) : Sealed m :=
  sealed_merge (covered_coverMsg t) sealed_coverArgs hm

end

end AccessLog
end SocFabric
