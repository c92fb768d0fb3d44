import Mathlib.Data.List.Induction
import Mathlib.Data.List.TakeWhile
import Mathlib.Tactic.SplitIfs
import SharedListener.Scope.Registry

/-!
# Which paths are live

A path belongs to the application that its first segment names, slashes in a
row counting as one (`IsFirstSegment`).  Of all switches that were set for an
application the last one counts, those of the configuration included, and an
application that has none is off (`lastSwitch?`).
-/

namespace SharedListener.Scope

/-! ## The first segment -/

/-- The segment is not empty and stands in the path between slashes, with nothing but slashes in
front of it. -/
def IsFirstSegment (segment path : List Char) : Prop :=
  ∃ slashes rest, path = slashes ++ segment ++ rest ∧ (∀ c ∈ slashes, c = '/') ∧
    segment ≠ [] ∧ '/' ∉ segment ∧ (rest = [] ∨ ∃ more, rest = '/' :: more)

private theorem firstSegment_of_isFirstSegment {segment path : List Char}
    (h : IsFirstSegment segment path) : firstSegment path = segment := by
  obtain ⟨slashes, rest, rfl, hslashes, hne, hsegment, hrest⟩ := h
  have hinside : ∀ c ∈ segment, (c != '/') = true := by
    intro c hc
    simpa using fun heq : c = '/' => hsegment (heq ▸ hc)
  have hdrop : (slashes ++ (segment ++ rest)).dropWhile (· == '/') = segment ++ rest := by
    rw [List.dropWhile_append_of_pos (by simpa using hslashes)]
    cases segment with
    | nil => exact absurd rfl hne
    | cons c segment =>
        have hc : (c == '/') = false := by simpa using hinside c List.mem_cons_self
        rw [List.cons_append, List.dropWhile_cons_of_neg (by simp [hc])]
  rw [firstSegment, List.append_assoc, hdrop, List.takeWhile_append_of_pos hinside]
  rcases hrest with rfl | ⟨more, rfl⟩ <;> simp

private theorem isFirstSegment_firstSegment {path : List Char} (h : firstSegment path ≠ []) :
    IsFirstSegment (firstSegment path) path := by
  refine ⟨path.takeWhile (· == '/'), (path.dropWhile (· == '/')).dropWhile (· != '/'), ?_, ?_, h,
    ?_, ?_⟩
  · rw [List.append_assoc, firstSegment, List.takeWhile_append_dropWhile,
      List.takeWhile_append_dropWhile]
  · intro c hc
    simpa using List.mem_takeWhile_imp hc
  · intro hc
    simpa using List.mem_takeWhile_imp hc
  · cases hrest : (path.dropWhile (· == '/')).dropWhile (· != '/') with
    | nil => exact .inl rfl
    | cons c more =>
        have hne : (path.dropWhile (· == '/')).dropWhile (· != '/') ≠ [] := by
          rw [hrest]
          exact List.cons_ne_nil c more
        have hc := List.head_dropWhile_not (· != '/') hne
        simp only [hrest, List.head_cons, bne_eq_false_iff_eq] at hc
        exact .inr ⟨more, by rw [hc]⟩

theorem applicationOf_eq_some_iff {path segment : List Char} :
    applicationOf (String.ofList path) = some (String.ofList segment) ↔
      IsFirstSegment segment path := by
  rw [applicationOf, String.toList_ofList]
  constructor
  · intro h
    split at h
    · cases h
    · next first hne =>
        obtain rfl := String.ofList_injective (Option.some.inj h)
        exact isFirstSegment_firstSegment hne
  · intro h
    rw [firstSegment_of_isFirstSegment h]
    obtain ⟨_, _, _, _, hne, _⟩ := h
    cases segment with
    | nil => exact absurd rfl hne
    | cons c segment => rfl

/-- A path with a segment has something behind its first slash. -/
theorem IsFirstSegment.one_lt_length {segment segments : List Char}
    (h : IsFirstSegment segment ('/' :: segments)) : 1 < ('/' :: segments).length := by
  obtain ⟨slashes, rest, hpath, _, hne, hsegment, _⟩ := h
  cases segments with
  | nil =>
      obtain ⟨c, hc⟩ := List.exists_mem_of_ne_nil segment hne
      have hmem : c ∈ ['/'] := by
        rw [hpath]
        simp [hc]
      exact absurd (List.mem_singleton.mp hmem ▸ hc) hsegment
  | cons c segments => simp

/-! ## The last switch -/

/-- What the last of the switches for an application says. -/
def lastSwitch? (switches : List (String × Bool)) (app : String) : Option Bool :=
  (switches.filter fun switch => switch.1 = app).getLast?.map Prod.snd

/-- The last of the switches for the application of the path turns it on. -/
def IsLive (switches : List (String × Bool)) (path : List Char) : Prop :=
  ∃ segment, IsFirstSegment segment path ∧
    lastSwitch? switches (String.ofList segment) = some true

namespace Registry

variable {registry : Registry} {switches : List (String × Bool)} {app : String}

theorem ofApps_concat (switches : List (String × Bool)) (app : String) (enabled : Bool) :
    ofApps (switches ++ [(app, enabled)]) = (ofApps switches).setEnabled app enabled := by
  rw [ofApps, List.foldl_append]
  rfl

theorem apps_ofApps (switches : List (String × Bool)) (app : String) :
    (ofApps switches).apps[app]? = lastSwitch? switches app := by
  induction switches using List.reverseRecOn with
  | nil => exact Std.ExtTreeMap.getElem?_empty
  | append_singleton switches switch ih =>
      rw [ofApps_concat, setEnabled, Std.ExtTreeMap.getElem?_insert, ih, lastSwitch?, lastSwitch?,
        List.filter_append]
      simp only [Std.LawfulEqCmp.compare_eq_iff_eq]
      by_cases hswitch : switch.1 = app <;> simp [hswitch]

theorem isEnabled_iff_isLive {path : List Char}
    (happs : ∀ app, registry.apps[app]? = lastSwitch? switches app) :
    registry.isEnabled (String.ofList path) ↔ IsLive switches path := by
  have hasked : registry.isEnabled (String.ofList path) ↔
      ∃ app, applicationOf (String.ofList path) = some app ∧
        lastSwitch? switches app = some true := by
    rw [isEnabled]
    cases applicationOf (String.ofList path) with
    | none => simp
    | some app => cases hlast : lastSwitch? switches app <;> simp [isAppEnabled, happs, hlast]
  rw [hasked, IsLive]
  constructor
  · rintro ⟨app, happ, hlast⟩
    rw [← String.ofList_toList (s := app)] at happ hlast
    exact ⟨app.toList, applicationOf_eq_some_iff.mp happ, hlast⟩
  · rintro ⟨segment, hsegment, hlast⟩
    exact ⟨String.ofList segment, applicationOf_eq_some_iff.mpr hsegment, hlast⟩

end Registry
end SharedListener.Scope
