import Mathlib.Logic.Function.Basic
import Mathlib.Tactic.SplitIfs
import SharedListener.Handshake.Request

/-!
# What a granted request says

A request is granted if its scope is live and a key is there (`negotiate_eq_ok`).
Host and origin are kept twice, as fields and among the headers, and every line
that is read keeps the two in agreement (`Mirrored`).
-/

namespace SharedListener.Handshake

variable {isEnabled : String → Bool} {metadata : Metadata} {request : Request}

/-! ## Reading header lines -/

theorem Header.name_injective : Function.Injective Header.name := by
  intro first second h
  cases first <;> cases second <;> first | rfl | exact absurd h (by decide)

theorem headers_withHeader (metadata : Metadata) (header : Header) (value name : String) :
    (withHeader metadata header value).headers[name]? =
      if header.name = name then some value else metadata.headers[name]? := by
  rw [withHeader, Std.ExtTreeMap.getElem?_insert]
  simp only [Std.LawfulEqCmp.compare_eq_iff_eq]

theorem path_withLine (metadata : Metadata) (line : List Char) :
    (withLine metadata line).path = metadata.path := by
  unfold withLine
  split <;> rfl

/-- The fields for host and origin say what the headers say, and nothing if there is no such
header. -/
structure Mirrored (metadata : Metadata) : Prop where
  host_eq : metadata.host = metadata.headers[Header.host.name]?.getD ""
  origin_eq : metadata.origin = metadata.headers[Header.origin.name]?.getD ""

theorem mirrored_of_path (path : String) : Mirrored { path } where
  host_eq := by simp
  origin_eq := by simp

theorem Mirrored.withHeader (h : Mirrored metadata) (header : Header) (value : String) :
    Mirrored (withHeader metadata header value) where
  host_eq := by
    simp only [headers_withHeader, Header.name_injective.eq_iff]
    show (if header = .host then value else metadata.host) = _
    split_ifs
    · rfl
    · exact h.host_eq
  origin_eq := by
    simp only [headers_withHeader, Header.name_injective.eq_iff]
    show (if header = .origin then value else metadata.origin) = _
    split_ifs
    · rfl
    · exact h.origin_eq

theorem Mirrored.withLine (h : Mirrored metadata) (line : List Char) :
    Mirrored (withLine metadata line) := by
  unfold Handshake.withLine
  split
  · exact h.withHeader _ _
  · exact h

theorem path_foldl_withLine (metadata : Metadata) (lines : List (List Char)) :
    (lines.foldl withLine metadata).path = metadata.path := by
  induction lines generalizing metadata with
  | nil => rfl
  | cons line lines ih => exact (ih (withLine metadata line)).trans (path_withLine metadata line)

theorem Mirrored.foldl_withLine (h : Mirrored metadata) (lines : List (List Char)) :
    Mirrored (lines.foldl Handshake.withLine metadata) := by
  induction lines generalizing metadata with
  | nil => exact h
  | cons line lines ih => exact ih (h.withLine line)

theorem metadataOf_mirrored (path : List Char) (headerLines : List (List Char)) :
    Mirrored (metadataOf path headerLines) :=
  (mirrored_of_path _).foldl_withLine _

theorem path_metadataOf (path : List Char) (headerLines : List (List Char)) :
    (metadataOf path headerLines).path = String.ofList path :=
  path_foldl_withLine _ _

/-! ## Granting -/

theorem grant_eq_ok (h : grant metadata = .ok request) :
    request.metadata = metadata ∧ metadata.headers[Header.key.name]? = some request.key ∧
      request.key ≠ "" := by
  unfold grant at h
  split at h
  · next key hkey =>
      split_ifs at h with hempty
      cases h
      exact ⟨rfl, hkey, by simpa using hempty⟩
  · cases h

/-- A granted request was read off its lines. -/
theorem exists_lines_of_negotiate {received : Bytes}
    (h : negotiate isEnabled received = .ok request) :
    ∃ requestLine headerLines path,
      Text.lines (Text.Utf8.recover received) = requestLine :: headerLines ∧
      pathOf requestLine = .ok path ∧ isEnabled (String.ofList path) ∧
      grant (metadataOf path headerLines) = .ok request := by
  unfold negotiate at h
  split at h
  · cases h
  · next requestLine headerLines hlines =>
      unfold negotiateLines at h
      split at h
      · cases h
      · next path hpath =>
          split_ifs at h with hlive
          simp only [Bool.or_eq_true, Bool.not_eq_true', not_or, Bool.not_eq_false] at hlive
          exact ⟨requestLine, headerLines, path, hlines, hpath, hlive.2, h⟩

/-- A granted request has a live path and a key, and its host and origin are those of its
headers. -/
theorem negotiate_eq_ok {received : Bytes} (h : negotiate isEnabled received = .ok request) :
    isEnabled request.metadata.path ∧
      request.metadata.headers[Header.key.name]? = some request.key ∧ request.key ≠ "" ∧
      Mirrored request.metadata := by
  obtain ⟨requestLine, headerLines, path, -, -, hlive, hgrant⟩ := exists_lines_of_negotiate h
  obtain ⟨hmetadata, hkey, hne⟩ := grant_eq_ok hgrant
  rw [hmetadata, path_metadataOf]
  exact ⟨hlive, hkey, hne, metadataOf_mirrored _ _⟩

end SharedListener.Handshake
