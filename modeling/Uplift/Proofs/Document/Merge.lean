import Uplift.Proofs.Document

set_option autoImplicit false

/-! # Laws of merging

Two values are merged part by part where they are *alike*, that is both objects or both arrays; otherwise
the right one takes the place of the left one. Part by part means that each child of the result comes from
the two children at the same segment (`child?_merge`): the left one if there is nothing on the right, and
otherwise the right one, merged into what is there (`mergeOver`). The laws of whole paths follow by
induction on the path, and a value that was merged in is absorbed from then on (`merge_merge`). -/

namespace Uplift.Document

open Json

/-! ## One level -/

/-- Whether two values are merged part by part. -/
def alike : Json → Json → Bool
  | .obj _, .obj _ => true
  | .arr _, .arr _ => true
  | _, _ => false

/-- A value merged into what is in its place, if there is anything. -/
def mergeOver : Option Json → Json → Json
  | some v, w => merge v w
  | none, w => w

theorem merge_of_not_alike {a b : Json} (h : alike a b = false) : merge a b = b := by
  cases a with
  | obj fs =>
    cases b with
    | obj gs => cases h
    | _ => rfl
  | arr xs =>
    cases b with
    | arr ys => cases h
    | _ => rfl
  | _ => cases b <;> rfl

theorem merge_of_isScalar {b : Json} (h : b.isScalar = true) (a : Json) : merge a b = b := by
  refine merge_of_not_alike ?_
  cases b with
  | obj gs => cases h
  | arr ys => cases h
  | _ => cases a <;> rfl

@[simp] theorem mergeItems_nil (xs : List Json) : mergeItems xs [] = xs := by
  cases xs <;> rfl

theorem getElem?_mergeItems (xs ys : List Json) (i : Nat) :
    (mergeItems xs ys)[i]? = (ys[i]?.map (mergeOver xs[i]?)).or xs[i]? := by
  induction ys generalizing xs i with
  | nil => simp
  | cons y ys ih =>
    cases xs with
    | nil => cases h : (y :: ys)[i]? <;> simp [mergeItems, h, mergeOver]
    | cons x xs =>
      cases i with
      | zero => simp [mergeItems, mergeOver]
      | succ i => simpa [mergeItems] using ih xs i

theorem mergeFields_cons (fs gs : Fields Json) (k : String) (w : Json) :
    mergeFields fs ((k, w) :: gs) = mergeFields (fs.put k (mergeOver (fs.get? k) w)) gs := by
  cases h : fs.get? k <;> simp [mergeFields, h, mergeOver]

theorem get?_mergeFields {gs : Fields Json} (hgs : (Fields.keys gs).Nodup) (fs : Fields Json)
    (k : String) :
    Fields.get? (mergeFields fs gs) k = ((gs.get? k).map (mergeOver (fs.get? k))).or (fs.get? k) := by
  induction gs generalizing fs with
  | nil => simp [mergeFields, Fields.get?]
  | cons e gs ih =>
    obtain ⟨key, w⟩ := e
    obtain ⟨hkey, hgs⟩ := List.nodup_cons.1 hgs
    rw [mergeFields_cons, ih hgs]
    by_cases hk : key = k
    · -- the key does not come again
      subst hk
      have hnone : Fields.get? gs key = none := Fields.get?_eq_none_iff.2 hkey
      simp [Fields.get?, hnone]
    · simp [Fields.get?, hk, Fields.get?_put_of_ne fs _ (Ne.symm hk)]

/-- Known keys keep their places, and new ones follow in their own order. -/
theorem keys_mergeFields {gs : Fields Json} (hgs : (Fields.keys gs).Nodup) (fs : Fields Json) :
    Fields.keys (mergeFields fs gs) =
      Fields.keys fs ++ (Fields.keys gs).filter (· ∉ Fields.keys fs) := by
  induction gs generalizing fs with
  | nil => simp [mergeFields, Fields.keys]
  | cons e gs ih =>
    obtain ⟨key, w⟩ := e
    obtain ⟨hkey, hgs⟩ := List.nodup_cons.1 hgs
    have hkeys : Fields.keys ((key, w) :: gs) = key :: Fields.keys gs := rfl
    rw [mergeFields_cons, ih hgs, hkeys]
    by_cases hmem : key ∈ Fields.keys fs
    · rw [Fields.keys_put_of_mem hmem, List.filter_cons_of_neg (by simpa using hmem)]
    · have hput : Fields.keys (fs.put key (mergeOver (fs.get? key) w)) = Fields.keys fs ++ [key] := by
        rw [Fields.put_of_notMem hmem]
        simp [Fields.keys]
      have hfilter : (Fields.keys gs).filter (· ∉ Fields.keys fs ++ [key])
          = (Fields.keys gs).filter (· ∉ Fields.keys fs) := by
        refine List.filter_congr fun k hk => ?_
        have hne : k ≠ key := by
          rintro rfl
          exact hkey hk
        simp [hne]
      rw [hput, hfilter, List.filter_cons_of_pos (by simpa using hmem), List.append_assoc]
      rfl

/-- **Each child of two alike values that are merged comes from their children at the same place.** -/
theorem child?_merge {a b : Json} (halike : alike a b = true) (hb : b.wellFormed = true) (s : String) :
    child? (merge a b) s = ((child? b s).map (mergeOver (child? a s))).or (child? a s) := by
  cases b with
  | obj gs =>
    cases a with
    | obj fs => exact get?_mergeFields ((wellFormed_obj_iff gs).1 hb).1 fs s
    | _ => cases halike
  | arr ys =>
    cases a with
    | arr xs =>
      cases hi : index? s with
      | none => simp [merge, child?, hi]
      | some i => simpa [merge, child?, hi] using getElem?_mergeItems xs ys i
    | _ => cases halike
  | _ => cases a <;> cases halike

/-! ## Merging again -/

theorem mergeFields_of_absorbed {hs gs : Fields Json}
    (h : ∀ e ∈ gs, ∃ v, hs.get? e.1 = some v ∧ merge v e.2 = v) : mergeFields hs gs = hs := by
  induction gs with
  | nil => simp [mergeFields]
  | cons e gs ih =>
    obtain ⟨k, w⟩ := e
    obtain ⟨hfirst, hrest⟩ := List.forall_mem_cons.1 h
    obtain ⟨v, hv, habsorbed⟩ := hfirst
    rw [mergeFields_cons, hv, mergeOver, habsorbed, Fields.put_of_get? hv]
    exact ih hrest

theorem mergeItems_of_absorbed {zs ys : List Json}
    (h : ∀ (i : Nat) y, ys[i]? = some y → ∃ z, zs[i]? = some z ∧ merge z y = z) :
    mergeItems zs ys = zs := by
  induction ys generalizing zs with
  | nil => simp
  | cons y ys ih =>
    obtain ⟨z, hz, habsorbed⟩ := h 0 y rfl
    cases zs with
    | nil => cases hz
    | cons z' zs =>
      obtain rfl : z' = z := by simpa using hz
      have hrest : mergeItems zs ys = zs :=
        ih fun i y hy => by simpa using h (i + 1) y (by simpa using hy)
      rw [mergeItems, habsorbed, hrest]

/-- Alone or merged into something, a value absorbs itself if it does over any other. -/
theorem absorbs_of_merge_merge {b : Json} (h : ∀ a, merge (merge a b) b = merge a b)
    (old : Option Json) : merge (mergeOver old b) b = mergeOver old b := by
  cases old with
  | some a => exact h a
  | none =>
    -- alone it is what it is over `null`
    have hnull : merge .null b = b := merge_of_not_alike (by cases b <;> rfl)
    have hself := h .null
    rwa [hnull] at hself

/-- Merging into whatever it may be leaves an array of items that were merged over something. -/
theorem exists_merge_arr (a : Json) (ys : List Json) : ∃ zs, merge a (.arr ys) = .arr zs ∧
    ∀ (i : Nat) y, ys[i]? = some y → ∃ old, zs[i]? = some (mergeOver old y) := by
  cases halike : alike a (.arr ys) with
  | false => exact ⟨ys, merge_of_not_alike halike, fun i y hy => ⟨none, hy⟩⟩
  | true =>
    cases a with
    | arr xs =>
      refine ⟨mergeItems xs ys, by rw [merge], fun i y hy => ⟨xs[i]?, ?_⟩⟩
      rw [getElem?_mergeItems, hy, Option.map_some, Option.some_or]
    | _ => cases halike

theorem exists_merge_obj (a : Json) {gs : Fields Json} (hgs : (Fields.keys gs).Nodup) :
    ∃ hs : Fields Json, merge a (.obj gs) = .obj hs ∧
      ∀ k w, gs.get? k = some w → ∃ old, hs.get? k = some (mergeOver old w) := by
  cases halike : alike a (.obj gs) with
  | false => exact ⟨gs, merge_of_not_alike halike, fun k w hw => ⟨none, hw⟩⟩
  | true =>
    cases a with
    | obj fs =>
      refine ⟨mergeFields fs gs, by rw [merge], fun k w hw => ⟨Fields.get? fs k, ?_⟩⟩
      rw [get?_mergeFields hgs, hw, Option.map_some, Option.some_or]
    | _ => cases halike

/-- **A value that was merged in is absorbed.** -/
theorem merge_merge {b : Json} (hb : b.wellFormed = true) (a : Json) :
    merge (merge a b) b = merge a b := by
  induction b using Json.induction generalizing a with
  | hscalar b hscalar => simp only [merge_of_isScalar hscalar]
  | harr ys ih =>
    have hys := (wellFormed_arr_iff ys).1 hb
    obtain ⟨zs, hmerge, hover⟩ := exists_merge_arr a ys
    have habsorbed : ∀ (i : Nat) y, ys[i]? = some y → ∃ z, zs[i]? = some z ∧ merge z y = z := by
      intro i y hy
      have hmem := List.mem_of_getElem? hy
      obtain ⟨old, hz⟩ := hover i y hy
      exact ⟨_, hz, absorbs_of_merge_merge (ih y hmem (hys y hmem)) old⟩
    rw [hmerge, merge, mergeItems_of_absorbed habsorbed]
  | hobj gs ih =>
    obtain ⟨hgs, hvalues⟩ := (wellFormed_obj_iff gs).1 hb
    obtain ⟨hs, hmerge, hover⟩ := exists_merge_obj a hgs
    have habsorbed : ∀ e ∈ gs, ∃ v, hs.get? e.1 = some v ∧ merge v e.2 = v := by
      intro e he
      obtain ⟨old, hv⟩ := hover e.1 e.2 (Fields.get?_of_mem hgs he)
      exact ⟨_, hv, absorbs_of_merge_merge (ih e he (hvalues e he)) old⟩
    rw [hmerge, merge, mergeFields_of_absorbed habsorbed]

/-! ## Whole paths -/

/-- What is below a merged value, where it has something itself, was merged over something as well. -/
theorem child?_mergeOver {b w : Json} {s : String} (hb : b.wellFormed = true)
    (h : child? b s = some w) (old : Option Json) :
    ∃ below, child? (mergeOver old b) s = some (mergeOver below w) := by
  cases old with
  | none => exact ⟨none, h⟩
  | some a =>
    cases halike : alike a b with
    | false => exact ⟨none, by rw [mergeOver, merge_of_not_alike halike, h, mergeOver]⟩
    | true => exact ⟨child? a s, by rw [mergeOver, child?_merge halike hb, h]; rfl⟩

/-- Scalars of the right side are in the result. -/
theorem getAt_mergeOver_of_isScalar {b w : Json} {path : List String} (hb : b.wellFormed = true)
    (h : getAt b path = some w) (hw : w.isScalar = true) (old : Option Json) :
    getAt (mergeOver old b) path = some w := by
  induction path generalizing b old with
  | nil =>
    obtain rfl : b = w := by simpa using h
    cases old with
    | none => exact getAt_nil b
    | some a => rw [mergeOver, merge_of_isScalar hw, getAt_nil]
  | cons s rest ih =>
    rw [getAt_cons] at h
    obtain ⟨b', hchild, h⟩ := Option.bind_eq_some_iff.1 h
    obtain ⟨below, hbelow⟩ := child?_mergeOver hb hchild old
    rw [getAt_cons, hbelow, Option.bind_some]
    exact ih (wellFormed_of_child? hb hchild) h below

/-- On a path and on every shorter one, two values hold both an object or both an array. -/
def AlikeAlong (a b : Json) (path : List String) : Prop :=
  ∀ front, front <+: path → ∃ x y, getAt a front = some x ∧ getAt b front = some y ∧ alike x y = true

theorem AlikeAlong.head {a b : Json} {path : List String} (h : AlikeAlong a b path) :
    alike a b = true := by
  obtain ⟨x, y, hx, hy, halike⟩ := h [] List.nil_prefix
  obtain rfl : a = x := by simpa using hx
  obtain rfl : b = y := by simpa using hy
  exact halike

theorem AlikeAlong.tail {a b : Json} {s : String} {path : List String} (h : AlikeAlong a b (s :: path)) :
    ∃ a' b', child? a s = some a' ∧ child? b s = some b' ∧ AlikeAlong a' b' path := by
  obtain ⟨a', b', ha, hb, -⟩ := h [s] (by simp)
  rw [getAt_cons] at ha hb
  have ha : child? a s = some a' := by simpa using ha
  have hb : child? b s = some b' := by simpa using hb
  refine ⟨a', b', ha, hb, fun front hfront => ?_⟩
  obtain ⟨x, y, hx, hy, halike⟩ := h (s :: front) (List.prefix_cons_inj s |>.2 hfront)
  rw [getAt_cons, ha, Option.bind_some] at hx
  rw [getAt_cons, hb, Option.bind_some] at hy
  exact ⟨x, y, hx, hy, halike⟩

/-- Along a path on which two values are alike, the merge comes down to what they hold there. -/
theorem getAt_merge_of_alikeAlong {a b : Json} {path : List String} (hb : b.wellFormed = true)
    (h : AlikeAlong a b path) : ∃ x y, getAt a path = some x ∧ getAt b path = some y ∧
      alike x y = true ∧ y.wellFormed = true ∧ getAt (merge a b) path = some (merge x y) := by
  induction path generalizing a b with
  | nil => exact ⟨a, b, getAt_nil a, getAt_nil b, h.head, hb, getAt_nil _⟩
  | cons s rest ih =>
    obtain ⟨a', b', ha', hb', hrest⟩ := h.tail
    have hchild : child? (merge a b) s = some (merge a' b') := by
      rw [child?_merge h.head hb, ha', hb']
      rfl
    rw [getAt_cons, getAt_cons, getAt_cons, ha', hb', hchild]
    exact ih (wellFormed_of_child? hb hb') hrest

/-! ## The laws -/

/-- **Merging is idempotent, takes the right side and loses nothing.** Let `b` be merged into `a`.
    Merging it again changes nothing. Every scalar of `b` is found where it is in `b`. On a path that
    leaves `b`, at a segment where `b` has nothing but is like `a` up to there, the result reads as `a`.
    Where the merge comes to two objects, the keys of the left one keep their places, and the other keys
    of the right one follow in their order. -/
theorem merge_right_biased {a b : Json} (hb : b.wellFormed = true) :
    merge (merge a b) b = merge a b ∧
    (∀ path w, getAt b path = some w → w.isScalar = true →
      getAt (merge a b) path = getAt b path) ∧
    (∀ front s rest, AlikeAlong a b front → getAt b (front ++ [s]) = none →
      getAt (merge a b) (front ++ s :: rest) = getAt a (front ++ s :: rest)) ∧
    (∀ path fs gs, AlikeAlong a b path → getAt a path = some (.obj fs) → getAt b path = some (.obj gs) →
      ∃ hs, getAt (merge a b) path = some (.obj hs) ∧
        Fields.keys hs = Fields.keys fs ++ (Fields.keys gs).filter (· ∉ Fields.keys fs)) := by
  refine ⟨merge_merge hb a, ?_, ?_, ?_⟩
  · intro path w hw hscalar
    rw [hw]
    exact getAt_mergeOver_of_isScalar hb hw hscalar (some a)
  · intro front s rest halong hnone
    obtain ⟨x, y, hx, hy, halike, hwell, hmerge⟩ := getAt_merge_of_alikeAlong hb halong
    have hchild : child? y s = none := by
      rw [getAt_append, hy, Option.bind_some, getAt_cons] at hnone
      simpa using hnone
    rw [getAt_append, getAt_append, hmerge, hx, Option.bind_some, Option.bind_some, getAt_cons,
      getAt_cons, child?_merge halike hwell, hchild]
    rfl
  · intro path fs gs halong hfs hgs
    obtain ⟨x, y, hx, hy, -, hwell, hmerge⟩ := getAt_merge_of_alikeAlong hb halong
    obtain rfl : x = .obj fs := Option.some.inj (hx.symm.trans hfs)
    obtain rfl : y = .obj gs := Option.some.inj (hy.symm.trans hgs)
    exact ⟨mergeFields fs gs, by rw [hmerge, merge], keys_mergeFields ((wellFormed_obj_iff gs).1 hwell).1 fs⟩

/-- A manifest and what a migration adds to it. A scalar takes the place of an object, an item that is
    there on the left alone stays, and the scripts keep their order. -/
theorem merge_right_biased_manifest :
    let a : Json := .obj [("scripts", .obj [("build", .str "x"), ("dev", .str "y")]),
      ("keywords", .arr [.str "a", .obj [("b", .null)]]), ("main", .obj [("m", .int 1)])]
    let b : Json := .obj [("main", .str "s"), ("scripts", .obj [("start", .str "s"), ("dev", .str "z")]),
      ("keywords", .arr [.str "c"])]
    b.wellFormed = true ∧ merge (merge a b) b = merge a b ∧
      getAt (merge a b) ["scripts", "dev"] = some (.str "z") ∧
      getAt (merge a b) ["main"] = some (.str "s") ∧
      getAt (merge a b) ["keywords", "1", "b"] = some .null ∧
      ∃ hs, getAt (merge a b) ["scripts"] = some (.obj hs) ∧ Fields.keys hs = ["build", "dev", "start"] := by
  intro a b
  have hb : b.wellFormed = true := by decide
  have halong : ∀ s x y, child? a s = some x → child? b s = some y → alike x y = true →
      AlikeAlong a b [s] := by
    intro s x y hx hy halike front hfront
    rcases List.prefix_cons_iff.1 hfront with rfl | ⟨rest, rfl, hrest⟩
    · exact ⟨a, b, rfl, rfl, rfl⟩
    · obtain rfl := List.prefix_nil.1 hrest
      exact ⟨x, y, by rw [getAt_cons, hx]; simp, by rw [getAt_cons, hy]; simp, halike⟩
  obtain ⟨hagain, hscalar, hleft, hkeys⟩ := merge_right_biased (a := a) hb
  refine ⟨hb, hagain, hscalar ["scripts", "dev"] (.str "z") rfl rfl,
    hscalar ["main"] (.str "s") rfl rfl,
    hleft ["keywords"] "1" ["b"] (halong "keywords" _ _ rfl rfl rfl) rfl, ?_⟩
  exact hkeys ["scripts"] _ _ (halong "scripts" _ _ rfl rfl rfl) rfl rfl

end Uplift.Document
