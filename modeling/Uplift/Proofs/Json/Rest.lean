import Mathlib.Data.List.Basic
import Mathlib.Data.List.TakeDrop
import Uplift.Proofs.Except
import Uplift.Report.Json

set_option autoImplicit false

/-! # What reading leaves

Whatever is read at the front of a text, what is left is an end of that text. This is proved along the
definitions: for blanks, strings and numbers, for values that are stepped over, and for decoders. The
loops over items and members are bounded by the length of the text, and it is this that keeps the
bound from being reached. -/

namespace Uplift.Json

variable {α β : Type}

theorem need_eq_ok_iff {o : Option α} {a : α} : need o = .ok a ↔ o = some a := by
  cases o <;> simp [need]

/-! ## Blanks and strings -/

theorem skipGap_suffix (cs : List Char) : skipGap cs <:+ cs := List.dropWhile_suffix isGap

theorem suffix_of_skipGap {cs rest : List Char} {c : Char} (h : skipGap cs = c :: rest) :
    rest <:+ cs :=
  (List.suffix_cons c rest).trans (h ▸ skipGap_suffix cs)

theorem length_lt_of_skipGap {cs rest : List Char} {c : Char} (h : skipGap cs = c :: rest) :
    rest.length < cs.length := by
  have hle := (skipGap_suffix cs).length_le
  rw [h] at hle
  exact hle

theorem consChar_eq_some {c : Option Char} {read : Option (List Char × List Char)}
    {body rest : List Char} (h : consChar c read = some (body, rest)) :
    ∃ body', read = some (body', rest) := by
  cases c with
  | none => cases h
  | some c =>
    cases read with
    | none => cases h
    | some r =>
      obtain ⟨-, rfl⟩ := Prod.mk.inj (Option.some.inj h)
      exact ⟨r.1, rfl⟩

theorem stringBody_suffix {cs body rest : List Char} (h : stringBody cs = some (body, rest)) :
    rest <:+ cs := by
  fun_induction stringBody cs generalizing body with
  | case1 rest' =>
    obtain ⟨-, rfl⟩ := Prod.mk.inj (Option.some.inj h)
    exact List.suffix_cons _ _
  | case2 | case4 | case7 | case9 => cases h
  | case3 a b c d u _ _ e f g i rest' ih =>
    obtain ⟨body', hbody⟩ := consChar_eq_some h
    exact (ih hbody).trans (List.suffix_append ['\\', 'u', a, b, c, d, '\\', 'u', e, f, g, i] rest')
  | case5 a b c d rest' u _ _ ih =>
    obtain ⟨body', hbody⟩ := consChar_eq_some h
    exact (ih hbody).trans (List.suffix_append ['\\', 'u', a, b, c, d] rest')
  | case6 c rest' _ ih =>
    obtain ⟨body', hbody⟩ := consChar_eq_some h
    exact (ih hbody).trans (List.suffix_append ['\\', c] rest')
  | case8 c rest' _ _ _ _ ih =>
    obtain ⟨body', hbody⟩ := consChar_eq_some h
    exact (ih hbody).trans (List.suffix_cons c rest')

theorem skipString_suffix {cs rest : List Char} (h : skipString cs = some rest) : rest <:+ cs := by
  fun_induction skipString cs with
  | case1 rest' =>
    obtain rfl := Option.some.inj h
    exact List.suffix_cons _ _
  | case2 a b c d rest' _ ih => exact (ih h).trans (List.suffix_append ['\\', 'u', a, b, c, d] rest')
  | case4 c rest' _ _ ih => exact (ih h).trans (List.suffix_append ['\\', c] rest')
  | case7 c rest' _ _ _ _ ih => exact (ih h).trans (List.suffix_cons c rest')
  | case3 | case5 | case6 | case8 => cases h

/-! ## Numbers -/

theorem takeDigits_suffix {cs ds rest : List Char} (h : takeDigits cs = (ds, rest)) :
    rest <:+ cs := by
  rw [takeDigits, List.span_eq_takeWhile_dropWhile] at h
  obtain ⟨-, rfl⟩ := Prod.mk.inj h
  exact List.dropWhile_suffix _

theorem lexWhole_suffix {cs ds rest : List Char} (h : lexWhole cs = some (ds, rest)) :
    rest <:+ cs := by
  unfold lexWhole at h
  split at h
  · cases h
  · rename_i hdigits
    obtain ⟨-, rfl⟩ := Prod.mk.inj (Option.some.inj h)
    exact takeDigits_suffix hdigits
  · cases h
  · exact takeDigits_suffix (Option.some.inj h)

theorem lexFraction_suffix {cs rest : List Char} {fraction : Option (List Char)}
    (h : lexFraction cs = some (fraction, rest)) : rest <:+ cs := by
  unfold lexFraction at h
  split at h
  · rename_i cs'
    split at h
    · cases h
    · rename_i hdigits
      obtain ⟨-, rfl⟩ := Prod.mk.inj (Option.some.inj h)
      exact (takeDigits_suffix hdigits).trans (List.suffix_cons _ cs')
  · obtain ⟨-, rfl⟩ := Prod.mk.inj (Option.some.inj h)
    exact List.suffix_rfl

theorem lexPower_suffix {up : Bool} {cs rest : List Char} {power : Option (Bool × List Char)}
    (h : lexPower up cs = some (power, rest)) : rest <:+ cs := by
  unfold lexPower at h
  split at h
  · cases h
  · rename_i hdigits
    obtain ⟨-, rfl⟩ := Prod.mk.inj (Option.some.inj h)
    exact takeDigits_suffix hdigits

theorem lexExponent_suffix {cs rest : List Char} {power : Option (Bool × List Char)}
    (h : lexExponent cs = some (power, rest)) : rest <:+ cs := by
  unfold lexExponent at h
  split at h
  · rename_i c cs'
    split at h
    · split at h
      · rename_i ds
        exact (lexPower_suffix h).trans (List.suffix_append [c, '+'] ds)
      · rename_i ds
        exact (lexPower_suffix h).trans (List.suffix_append [c, '-'] ds)
      · exact (lexPower_suffix h).trans (List.suffix_cons c cs')
    · obtain ⟨-, rfl⟩ := Prod.mk.inj (Option.some.inj h)
      exact List.suffix_rfl
  · obtain ⟨-, rfl⟩ := Prod.mk.inj (Option.some.inj h)
    exact List.suffix_rfl

theorem lexNumber_suffix {cs rest : List Char} {n : Lexeme} (h : lexNumber cs = some (n, rest)) :
    rest <:+ cs := by
  unfold lexNumber at h
  split at h
  rename_i negative cs' hsplit
  have hsign : cs' <:+ cs := by
    split at hsplit
    · obtain ⟨-, rfl⟩ := Prod.mk.inj hsplit
      exact List.suffix_cons _ _
    · obtain ⟨-, rfl⟩ := Prod.mk.inj hsplit
      exact List.suffix_rfl
  simp only [Option.bind_eq_bind, Option.bind_eq_some_iff, Prod.exists] at h
  obtain ⟨whole, cs₁, hwhole, fraction, cs₂, hfraction, exponent, cs₃, hexponent, hresult⟩ := h
  obtain ⟨-, rfl⟩ := Prod.mk.inj (Option.some.inj hresult)
  exact (lexExponent_suffix hexponent).trans
    ((lexFraction_suffix hfraction).trans ((lexWhole_suffix hwhole).trans hsign))

/-! ## Values that are stepped over -/

theorem isPrefixOf?_suffix {word cs rest : List Char} (h : word.isPrefixOf? cs = some rest) :
    rest <:+ cs := by
  obtain rfl := List.isPrefixOf?_eq_some_iff_append_eq.1 h
  exact List.suffix_append word rest

theorem skipScalar_suffix {cs rest : List Char} (h : skipScalar cs = some rest) : rest <:+ cs := by
  unfold skipScalar at h
  split at h
  · exact isPrefixOf?_suffix h
  · exact isPrefixOf?_suffix h
  · exact isPrefixOf?_suffix h
  · exact (skipString_suffix h).trans (List.suffix_cons _ _)
  · obtain ⟨⟨n, rest'⟩, hnumber, rfl⟩ := Option.map_eq_some_iff.1 h
    exact lexNumber_suffix hnumber

section

variable {item : List Char → Option (List Char)}
  (hitem : ∀ {cs rest : List Char}, item cs = some rest → rest <:+ cs)

include hitem

theorem suffix_of_map_skipGap {cs rest : List Char} {c : Char}
    (h : (item cs).map skipGap = some (c :: rest)) : rest <:+ cs := by
  obtain ⟨cs', hcs', hgap⟩ := Option.map_eq_some_iff.1 h
  exact (suffix_of_skipGap hgap).trans (hitem hcs')

theorem skipItems_suffix {fuel : Nat} {cs rest : List Char}
    (h : skipItems item fuel cs = some rest) : rest <:+ cs := by
  induction fuel generalizing cs with
  | zero => cases h
  | succ fuel ih =>
    unfold skipItems at h
    split at h
    · rename_i hnext
      exact (ih h).trans (suffix_of_map_skipGap hitem hnext)
    · rename_i hlast
      obtain rfl := Option.some.inj h
      exact suffix_of_map_skipGap hitem hlast
    · cases h

theorem skipMembers_suffix {fuel : Nat} {cs rest : List Char}
    (h : skipMembers item fuel cs = some rest) : rest <:+ cs := by
  induction fuel generalizing cs with
  | zero => cases h
  | succ fuel ih =>
    unfold skipMembers at h
    split at h
    · rename_i hquote
      split at h
      · rename_i hcolon
        have hvalue := (suffix_of_map_skipGap skipString_suffix hcolon).trans (suffix_of_skipGap hquote)
        split at h
        · rename_i hnext
          exact (ih h).trans ((suffix_of_map_skipGap hitem hnext).trans hvalue)
        · rename_i hlast
          obtain rfl := Option.some.inj h
          exact (suffix_of_map_skipGap hitem hlast).trans hvalue
        · cases h
      · cases h
    · cases h

end

theorem skipNested_suffix {depth : Nat} {cs rest : List Char} (h : skipNested depth cs = some rest) :
    rest <:+ cs := by
  induction depth generalizing cs rest with
  | zero => exact (skipScalar_suffix h).trans (skipGap_suffix cs)
  | succ depth ih =>
    unfold skipNested at h
    split at h
    · rename_i hopen
      refine List.IsSuffix.trans ?_ (suffix_of_skipGap hopen)
      split at h
      · rename_i hclose
        obtain rfl := Option.some.inj h
        exact suffix_of_skipGap hclose
      · exact (skipItems_suffix ih h).trans (skipGap_suffix _)
    · rename_i hopen
      refine List.IsSuffix.trans ?_ (suffix_of_skipGap hopen)
      split at h
      · rename_i hclose
        obtain rfl := Option.some.inj h
        exact suffix_of_skipGap hclose
      · exact (skipMembers_suffix ih h).trans (skipGap_suffix _)
    · exact (skipScalar_suffix h).trans (skipGap_suffix cs)

theorem skipValue_suffix {cs rest : List Char} (h : skipValue cs = some rest) : rest <:+ cs :=
  skipNested_suffix h

/-! ## Decoders -/

/-- What the decoder leaves is an end of the text. -/
def LeavesSuffix (d : Decoder α) : Prop := ∀ {cs rest a}, d cs = .ok (a, rest) → rest <:+ cs

theorem text_eq_ok {cs rest : List Char} {key : String} (h : text cs = .ok (key, rest)) :
    ∃ body inner, skipGap cs = '"' :: inner ∧ stringBody inner = some (body, rest) ∧
      key = String.ofList body := by
  unfold text at h
  split at h
  · rename_i inner hquote
    obtain ⟨⟨body, rest'⟩, hbody, hresult⟩ := bind_eq_ok_iff.1 h
    obtain ⟨rfl, rfl⟩ := Prod.mk.inj (Except.ok.inj hresult)
    exact ⟨body, inner, hquote, need_eq_ok_iff.1 hbody, rfl⟩
  · cases h

theorem leavesSuffix_text : LeavesSuffix text := by
  intro cs rest key h
  obtain ⟨body, inner, hquote, hbody, -⟩ := text_eq_ok h
  exact (stringBody_suffix hbody).trans (suffix_of_skipGap hquote)

theorem length_lt_of_text {cs rest : List Char} {key : String} (h : text cs = .ok (key, rest)) :
    rest.length < cs.length := by
  obtain ⟨body, inner, hquote, hbody, -⟩ := text_eq_ok h
  exact Nat.lt_of_le_of_lt (stringBody_suffix hbody).length_le (length_lt_of_skipGap hquote)

theorem leavesSuffix_through {f : α → Option β} {d : Decoder α} (h : LeavesSuffix d) :
    LeavesSuffix (through f d) := by
  intro cs rest b hb
  obtain ⟨⟨a, rest'⟩, ha, hrest⟩ := bind_eq_ok_iff.1 hb
  obtain ⟨b', -, hresult⟩ := bind_eq_ok_iff.1 hrest
  obtain ⟨-, rfl⟩ := Prod.mk.inj (Except.ok.inj hresult)
  exact h ha

theorem leavesSuffix_number : LeavesSuffix number := by
  intro cs rest v hv
  obtain ⟨⟨n, rest'⟩, hnumber, hrest⟩ := bind_eq_ok_iff.1 hv
  obtain ⟨v', -, hresult⟩ := bind_eq_ok_iff.1 hrest
  obtain ⟨-, rfl⟩ := Prod.mk.inj (Except.ok.inj hresult)
  exact (lexNumber_suffix (need_eq_ok_iff.1 hnumber)).trans (skipGap_suffix cs)

end Uplift.Json
