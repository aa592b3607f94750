import SocFabric.AccessLogMasking

/-!
# Addresses of requests in the access log (`interfaces/main.py`)

The filter is attached to the logger of the requests (`uvicorn.access`), whose template none of the
patterns match. The client is the first argument, so its address is masked (`maskHead_octets`), and
what the log shows of addresses is what method, path and version show
(`filter_accessRecord_anonymous_iff_of_quad`).
-/

namespace SocFabric
namespace AccessLog
open PercentFormat Substitution

/-! ### Messages with separators -/

section
variable {U : Unicode} {a b : List Char} {c : Char}

/-- An address stands on one side of a character that is not in it or on the other. -/
theorem showsAddress_append_cons (hdigit : c.isDigit = false) (hdot : c ≠ '.') :
    ShowsAddress (a ++ c :: b) ↔ ShowsAddress a ∨ ShowsAddress b := by
  constructor
  · rintro ⟨x, w, y, h, hw, hleft, hright⟩
    have hc : c ∉ w := fun hmem => (hw.eq_dot_or_isDigit c hmem).elim hdot (Bool.eq_false_iff.mp hdigit)
    rw [List.append_assoc] at h
    rcases Joined.stretch_left_or_right h hc hw.ne_nil with ⟨y, rfl, rfl⟩ | ⟨x, rfl, rfl⟩
    · refine .inl ⟨x, w, y, (List.append_assoc ..).symm, hw, hleft, fun d hd => hright d ?_⟩
      rw [List.head?_append, Option.mem_def.mp hd]
      rfl
    · refine .inr ⟨x, w, y, (List.append_assoc ..).symm, hw, fun d hd => hleft d ?_, hright⟩
      rw [List.append_cons, List.getLast?_append, Option.mem_def.mp hd]
      rfl
  · rintro (⟨x, w, y, rfl, hw, hleft, hright⟩ | ⟨x, w, y, rfl, hw, hleft, hright⟩)
    · refine ⟨x, w, y ++ c :: b, by simp, hw, hleft, fun d hd => ?_⟩
      cases y with
      | nil =>
        obtain rfl := Option.mem_some.mp hd
        exact hdigit
      | cons e y => exact hright d hd
    · refine ⟨a ++ c :: x, w, y, by simp, hw, fun d hd => ?_, hright⟩
      rw [List.append_cons, List.getLast?_append] at hd
      cases hx : x.getLast? with
      | some e => exact hleft d (by rwa [hx] at hd ⊢)
      | none =>
        rw [hx, Option.none_or, List.getLast?_concat] at hd
        obtain rfl := Option.mem_some.mp hd
        exact hdigit

theorem not_showsAddress {m : List Char} (hdot : '.' ∉ m) : ¬ ShowsAddress m := by
  rintro ⟨x, w, y, rfl, hw, -⟩
  exact hdot (List.mem_append_left _ (List.mem_append_right _ hw.dot_mem))

/-- Text without digits and dots keeps what stands before it apart from what stands behind it. -/
theorem showsAddress_append {s : List Char} (hs : ∀ c ∈ s, c.isDigit = false ∧ c ≠ '.') (hne : s ≠ []) :
    ShowsAddress (a ++ (s ++ b)) ↔ ShowsAddress a ∨ ShowsAddress b := by
  obtain ⟨c, s, rfl⟩ := List.exists_cons_of_ne_nil hne
  have hskip : ∀ s : List Char, (∀ c ∈ s, c.isDigit = false ∧ c ≠ '.') →
      (ShowsAddress (s ++ b) ↔ ShowsAddress b) := by
    intro s hs
    induction s with
    | nil => rfl
    | cons d s ih =>
      obtain ⟨hdigit, hdot⟩ := hs d List.mem_cons_self
      have hcons := showsAddress_append_cons (a := []) (b := s ++ b) hdigit hdot
      rw [List.nil_append] at hcons
      rw [List.cons_append, hcons, ih fun e he => hs e (List.mem_cons_of_mem d he)]
      exact or_iff_right (not_showsAddress List.not_mem_nil)
  obtain ⟨hdigit, hdot⟩ := hs c List.mem_cons_self
  rw [List.cons_append, showsAddress_append_cons hdigit hdot,
    hskip s fun e he => hs e (List.mem_cons_of_mem c he)]

/-! ### The template -/

theorem matchAt_inlinePattern_eq_none {prev : Option Char} (hc : U.decimal c = false) (t : List Char) :
    matchAt (inlinePattern U) prev (c :: t) = none := by
  by_contra hsome
  obtain ⟨ws, hws⟩ := Option.ne_none_iff_exists'.mp hsome
  obtain ⟨v, hv, hfits⟩ := fits_of_matchAt hws
  match ws, hfits with
  | _ :: [] :: _, ⟨_, _, _, hleast, _⟩ => exact absurd hleast (by decide)
  | _ :: (d :: w) :: _, ⟨rfl, _, hcls, _⟩ =>
    obtain ⟨rfl, -⟩ := List.cons.inj hv
    exact absurd (hcls c List.mem_cons_self) (Bool.eq_false_iff.mp hc)

/-- No pattern matches in the template of the requests. -/
theorem maskMsg_requestTemplate : maskMsg U requestTemplate = requestTemplate := by
  have hdigits : ∀ c ∈ requestTemplate, c.toNat < 128 ∧ c.isDigit = false := by decide
  have hinline : sub (inlinePattern U) (fun _ => octetMask) requestTemplate = requestTemplate :=
    sub_eq_self fun prev c hc t => matchAt_inlinePattern_eq_none
      ((U.decimal_ascii c (hdigits c hc).1).trans (hdigits c hc).2) t
  have hscheme : ∀ c ∈ requestTemplate, decide (c = 'h') = false := by decide
  have hurl : sub urlPattern maskUrl (requestTemplate ++ []) = requestTemplate ++ sub urlPattern maskUrl [] :=
    sub_append_of_forall stops_urlPattern_nil hscheme
  rw [List.append_nil] at hurl
  rw [maskMsg, hinline]
  exact hurl.trans (List.append_nil _)

theorem getMessage_accessRecord (client method path version : String) {status : Object} {txt : List Char}
    (htxt : status.format ⟨[], none, none, 'd'⟩ = some txt) :
    (filter U (accessRecord client method path version status)).1.getMessage U =
      some (maskHead U client.toList ++ (" - \"".toList ++ (method.toList ++ (" ".toList ++ (path.toList ++
        (" HTTP/".toList ++ (version.toList ++ ("\" ".toList ++ txt)))))))) := by
  have hfilter : (filter U (accessRecord client method path version status)).1.getMessage U =
      percent U.printable none requestTemplate
        [.str (maskHead U client.toList), .str method.toList, .str path.toList, .str version.toList,
          .other status] :=
    congrArg (percent U.printable none · _) maskMsg_requestTemplate
  have htemplate : requestTemplate = '%' :: 's' :: (" - \"".toList ++ '%' :: 's' :: (" ".toList ++
      '%' :: 's' :: (" HTTP/".toList ++ '%' :: 's' :: ("\" ".toList ++ ['%', 'd'])))) := by decide
  have hliteral : ∀ b : List Char, '%' ∉ b → ∀ c ∈ b, Glyph.view c ≠ some '%' :=
    fun b hb c hc heq => hb (Option.some.inj heq ▸ hc)
  rw [hfilter, htemplate, percent_s, percent_append (hliteral _ (by decide)), percent_s,
    percent_append (hliteral _ (by decide)), percent_s, percent_append (hliteral _ (by decide)), percent_s,
    percent_append (hliteral _ (by decide)), percent_d htxt]
  simp [percent]

/-! ### The client -/

theorem dot_notMem {n : List Char} (hn : Octet n) : '.' ∉ n := fun hmem => absurd (hn.1 _ hmem) (by decide)

theorem eq_of_fits_octetDot {q : List Item} {prev : Option Char} {ws : List (List Char)} {v : List Char}
    (h : Fits (octetDot U ++ q) prev ws v) :
    ∃ m ws' prev', ws = m :: ['.'] :: ws' ∧ '.' ∉ m ∧ Fits q prev' ws' v := by
  match ws with
  | [] => exact False.elim h
  | [_] => exact False.elim h.2.2.2
  | m :: d :: ws =>
    obtain ⟨hm, -, -, hd⟩ := h
    obtain rfl := eq_of_fits_one hd
    have hdot : U.decimal '.' = false := U.decimal_ascii '.' (by decide)
    exact ⟨m, ws, _, rfl, fun hmem => absurd (hm _ hmem) (Bool.eq_false_iff.mp hdot), hd.2.2.2⟩

theorem eq_of_fits_threeOctets {prev : Option Char} {ws : List (List Char)} {v : List Char}
    (h : Fits (threeOctets U) prev ws v) :
    ∃ m₁ m₂ m₃, ws = [m₁, ['.'], m₂, ['.'], m₃, ['.']] ∧ '.' ∉ m₁ ∧ '.' ∉ m₂ ∧ '.' ∉ m₃ := by
  obtain ⟨m₁, ws, prev₁, rfl, hm₁, h⟩ := eq_of_fits_octetDot (q := octetDot U ++ octetDot U) h
  obtain ⟨m₂, ws, prev₂, rfl, hm₂, h⟩ := eq_of_fits_octetDot (q := octetDot U) h
  obtain ⟨m₃, ws, prev₃, rfl, hm₃, h⟩ := eq_of_fits_octetDot (q := []) h
  obtain rfl : ws = [] := h
  exact ⟨m₁, m₂, m₃, rfl, hm₁, hm₂, hm₃⟩

/-- A first argument that begins with three numbers and dots loses them. -/
theorem maskHead_octets {n₁ n₂ n₃ s : List Char} (h₁ : Octet n₁) (h₂ : Octet n₂) (h₃ : Octet n₃) :
    maskHead U (n₁ ++ '.' :: (n₂ ++ '.' :: (n₃ ++ '.' :: s))) = octetMask ++ s := by
  have hfits : Fits (headPattern U) none [[], n₁, ['.'], n₂, ['.'], n₃, ['.']] s :=
    ⟨rfl, rfl, fits_threeOctets h₁ h₂ h₃⟩
  obtain ⟨ws, hws⟩ := Option.isSome_iff_exists.mp (matchAt_isSome_of_fits hfits)
  have htext : [[], n₁, ['.'], n₂, ['.'], n₃, ['.']].flatten ++ s =
      n₁ ++ '.' :: (n₂ ++ '.' :: (n₃ ++ '.' :: s)) := by simp
  rw [htext] at hws
  obtain ⟨v, hv, hfits'⟩ := fits_of_matchAt hws
  have hv' : v = s := by
    cases ws with
    | nil => exact False.elim hfits'
    | cons w₀ ws =>
      obtain ⟨rfl, -, hrest⟩ := hfits'
      obtain ⟨m₁, m₂, m₃, rfl, hm₁, hm₂, hm₃⟩ := eq_of_fits_threeOctets hrest
      have hparts : n₁ ++ '.' :: (n₂ ++ '.' :: (n₃ ++ '.' :: s)) =
          m₁ ++ '.' :: (m₂ ++ '.' :: (m₃ ++ '.' :: v)) := by
        rw [hv]
        simp
      obtain ⟨-, htail₁⟩ := Joined.left_injective hparts (dot_notMem h₁) hm₁
      obtain ⟨-, htail₂⟩ := Joined.left_injective htail₁ (dot_notMem h₂) hm₂
      exact (Joined.left_injective htail₂ (dot_notMem h₃) hm₃).2.symm
  obtain ⟨c, u, hcu⟩ := List.exists_cons_of_ne_nil
    (List.append_ne_nil_of_right_ne_nil n₁ (List.cons_ne_nil '.' (n₂ ++ '.' :: (n₃ ++ '.' :: s))))
  rw [hcu] at hws hv ⊢
  rw [maskHead, sub, Substitution.split, assemble_match rfl hws, headPattern, assemble_start,
    drop_match proper_headPattern hws hv, hv']

theorem not_showsAddress_of_digits {m : List Char} (hdigits : ∀ c ∈ m, c.isDigit = false) :
    ¬ ShowsAddress m := by
  rintro ⟨x, w, y, rfl, hw, -⟩
  obtain ⟨d, w', rfl, hdigit⟩ := hw.head_isDigit
  exact absurd hdigit (Bool.eq_false_iff.mp (hdigits d (by simp)))

/-- The address of a client is not shown. -/
theorem not_showsAddress_client {w port : List Char} (hw : Quad w) (hport : '.' ∉ port) :
    ¬ ShowsAddress (maskHead U (w ++ ':' :: port)) := by
  obtain ⟨n₁, n₂, n₃, n₄, h₁, h₂, h₃, h₄, rfl⟩ := hw
  have hn₄ : '.' ∉ n₄ := dot_notMem h₄
  have hmasked : maskHead U (n₁ ++ '.' :: (n₂ ++ '.' :: (n₃ ++ '.' :: n₄)) ++ ':' :: port) =
      "***.***.**".toList ++ '*' :: ('.' :: n₄ ++ ':' :: port) := by
    have hassoc : n₁ ++ '.' :: (n₂ ++ '.' :: (n₃ ++ '.' :: n₄)) ++ ':' :: port =
        n₁ ++ '.' :: (n₂ ++ '.' :: (n₃ ++ '.' :: (n₄ ++ ':' :: port))) := by simp
    rw [hassoc, maskHead_octets h₁ h₂ h₃]
    rfl
  rw [hmasked, showsAddress_append_cons (by decide) (by decide),
    showsAddress_append_cons (by decide) (by decide)]
  rintro (hmask | ⟨x, w, y, hlast, hw, -⟩ | hshown)
  · exact not_showsAddress_of_digits (by decide) hmask
  · obtain ⟨d, w', rfl, hdigit⟩ := hw.head_isDigit
    cases x with
    | nil =>
      obtain ⟨rfl, -⟩ := List.cons.inj hlast
      cases hdigit
    | cons e x =>
      obtain ⟨-, rfl⟩ := List.cons.inj hlast
      exact hn₄ (List.mem_append_left _ (List.mem_append_right _ hw.dot_mem))
  · exact not_showsAddress hport hshown

/-! ### Requests -/

/-- A request is logged without an address if method, path and version show none, and the client none
once its first three numbers are masked. -/
theorem filter_accessRecord_anonymous_iff (client method path version : String) {status : Object}
    {txt : List Char} (htxt : status.format ⟨[], none, none, 'd'⟩ = some txt) (hdot : '.' ∉ txt) :
    Anonymous U (filter U (accessRecord client method path version status)).1 ↔
      ¬ ShowsAddress (maskHead U client.toList) ∧ ¬ ShowsAddress method.toList ∧
        ¬ ShowsAddress path.toList ∧ ¬ ShowsAddress version.toList := by
  have hone : ∀ m : List Char, (∀ x, some m = some x → ¬ ShowsAddress x) ↔ ¬ ShowsAddress m :=
    fun m => ⟨fun h => h m rfl, fun h x hx => Option.some.inj hx ▸ h⟩
  rw [Anonymous, getMessage_accessRecord client method path version htxt, hone,
    showsAddress_append (by decide) (by decide), showsAddress_append (by decide) (by decide),
    showsAddress_append (by decide) (by decide), showsAddress_append (by decide) (by decide),
    or_iff_left (not_showsAddress hdot), not_or, not_or, not_or]

theorem filter_accessRecord_anonymous_iff_of_quad {client method path version : String} {status : Object}
    {w port txt : List Char} (hclient : client.toList = w ++ ':' :: port) (hw : Quad w) (hport : '.' ∉ port)
    (htxt : status.format ⟨[], none, none, 'd'⟩ = some txt) (hdot : '.' ∉ txt) :
    Anonymous U (filter U (accessRecord client method path version status)).1 ↔
      ¬ ShowsAddress method.toList ∧ ¬ ShowsAddress path.toList ∧ ¬ ShowsAddress version.toList := by
  rw [filter_accessRecord_anonymous_iff client method path version htxt hdot, hclient]
  exact and_iff_right (not_showsAddress_client hw hport)

end

end AccessLog
end SocFabric
