import SharedListener.Handshake.Response
import SharedListener.Proofs.Handshake.Head
import SharedListener.Proofs.Handshake.HeaderLines

/-!
# What a client can do to the response

A response repeats the origin and the host of the request.  Both are pieces of
header lines, and lines of the request, read as a text, have no line break inside
(`unbroken_of_negotiate`).  The accept value consists of letters, digits and three
signs (`Stamp.mem_alphabet_of_mem_acceptValue`), whatever the key is and whichever
digest and text it is made with.

So the response falls into the same eight pieces for every client
(`response_unsplit`), and its first blank line is the one in front of the accept
value.
-/

namespace SharedListener

namespace Handshake

open Digest.Base64 (alphabet)
open Text.Utf8 (encode recover)

/-! ## The accept value -/

theorem Stamp.mem_alphabet_of_mem_acceptValue (stamp : Stamp) (key : String) :
    ∀ c ∈ stamp.acceptValue key, c ∈ alphabet :=
  stamp.mem_alphabet _ (stamp.length_digest _)

theorem Stamp.length_acceptValue (stamp : Stamp) (key : String) :
    (stamp.acceptValue key).length = 28 :=
  stamp.length_text _ (stamp.length_digest _)

private theorem alphabet_plain : ∀ c ∈ alphabet, c.utf8Size = 1 ∧ c ≠ '\r' := by
  have hall : alphabet.all fun c => c.utf8Size = 1 ∧ c ≠ '\r' := by decide +kernel
  simpa using hall

/-- Every character of the accept value is one octet. -/
theorem Stamp.length_encode_acceptValue (stamp : Stamp) (key : String) :
    (encode (stamp.acceptValue key)).length = 28 := by
  have hplain (text : List Char) (htext : ∀ c ∈ text, c ∈ alphabet) :
      (encode text).length = text.length := by
    induction text with
    | nil => rfl
    | cons c text ih =>
        obtain ⟨hc, hrest⟩ := List.forall_mem_cons.mp htext
        show (String.utf8EncodeChar c ++ encode text).length = _
        rw [List.length_append, String.length_utf8EncodeChar, (alphabet_plain c hc).1, ih hrest,
          List.length_cons, Nat.add_comm]
  rw [hplain _ (stamp.mem_alphabet_of_mem_acceptValue key), stamp.length_acceptValue]

theorem Stamp.unbroken_acceptValue (stamp : Stamp) (key : String) :
    ¬ Text.lineBreak <:+: stamp.acceptValue key := by
  intro h
  have hreturn : '\r' ∈ stamp.acceptValue key := h.subset List.mem_cons_self
  exact (alphabet_plain _ (stamp.mem_alphabet_of_mem_acceptValue key _ hreturn)).2 rfl

/-! ## What the request may say -/

variable {isEnabled : String → Bool} {received : Bytes} {request : Request}

/-- The values of the headers are parts of lines. -/
theorem unbroken_header {path name value : String} {lines : List (List Char)}
    (hlines : ∀ line ∈ lines, ¬ Text.lineBreak <:+: line)
    (h : (lines.foldl withLine { path }).headers[name]? = some value) :
    ¬ Text.lineBreak <:+: value.toList := by
  rw [← String.ofList_toList (s := value), headers_foldl_withLine] at h
  obtain ⟨before, line, behind, rfl, hsets, -⟩ := h
  exact fun hbreak => hlines line (by simp) (hbreak.trans hsets.isInfix)

/-- No header of a granted request has a line break in its value. -/
theorem unbroken_of_negotiate (h : negotiate isEnabled received = .ok request)
    {name value : String} (hvalue : request.metadata.headers[name]? = some value) :
    ¬ Text.lineBreak <:+: value.toList := by
  obtain ⟨requestLine, headerLines, path, hlines, -, -, hgrant⟩ := exists_lines_of_negotiate h
  rw [(grant_eq_ok hgrant).1, metadataOf] at hvalue
  refine unbroken_header (fun line hline => ?_) hvalue
  have hmem : line ∈ Text.lines (recover received) := by
    rw [hlines]
    exact List.mem_cons_of_mem _ ((List.takeWhile_prefix _).subset hline)
  exact Text.unbroken_of_mem_lines hmem

theorem unbroken_origin_host (h : negotiate isEnabled received = .ok request) :
    ¬ Text.lineBreak <:+: request.metadata.origin.toList ∧
      ¬ Text.lineBreak <:+: request.metadata.host.toList := by
  have hfree (name : String) :
      ¬ Text.lineBreak <:+: (request.metadata.headers[name]?.getD "").toList := by
    cases hvalue : request.metadata.headers[name]? with
    | none => exact Text.unbroken_nil
    | some value => exact unbroken_of_negotiate h hvalue
  obtain ⟨-, -, -, hmirrored⟩ := negotiate_eq_ok h
  rw [hmirrored.origin_eq, hmirrored.host_eq]
  exact ⟨hfree _, hfree _⟩

/-! ## The pieces of a response -/

theorem unbroken_responseLines {origin host : String} {accept : List Char}
    (horigin : ¬ Text.lineBreak <:+: origin.toList) (hhost : ¬ Text.lineBreak <:+: host.toList)
    (haccept : ¬ Text.lineBreak <:+: accept) :
    ∀ line ∈ responseLines origin host accept, ¬ Text.lineBreak <:+: line := by
  simp only [responseLines, List.forall_mem_cons]
  exact ⟨by decide +kernel, by decide +kernel, by decide +kernel,
    Text.unbroken_append_of_no_return (by decide +kernel) horigin,
    Text.unbroken_append_of_no_return (by decide +kernel) hhost,
    Text.unbroken_append_of_no_return (by decide +kernel) haccept,
    List.forall_mem_nil _⟩

theorem ne_nil_of_mem_responseLines (origin host : String) (accept : List Char) :
    ∀ line ∈ responseLines origin host accept, line ≠ [] := by
  simp [responseLines]

/-- A response is a head with the accept value behind it. -/
theorem Stamp.response_eq (stamp : Stamp) (origin host key : String) :
    stamp.response origin host key =
      ((responseLines origin host (stamp.acceptValue key)).map encode).flatMap
        (· ++ Text.Utf8.lineBreak) ++ Text.Utf8.lineBreak ++ encode (stamp.acceptValue key) := by
  have hlines (lines : List (List Char)) : encode (lines.flatMap (· ++ ['\r', '\n'])) =
      (lines.map encode).flatMap (· ++ Text.Utf8.lineBreak) := by
    induction lines with
    | nil => rfl
    | cons line lines ih =>
        rw [List.flatMap_cons, Text.Utf8.encode_append, Text.Utf8.encode_append, ih]
        rfl
  rw [Stamp.response, responseText, Text.Utf8.encode_append, hlines, List.append_assoc]
  rfl

section Unbroken

variable (stamp : Stamp) {origin host : String} (key : String)
  (horigin : ¬ Text.lineBreak <:+: origin.toList) (hhost : ¬ Text.lineBreak <:+: host.toList)
include horigin hhost

private theorem unbroken_encode_responseLines :
    ∀ line ∈ (responseLines origin host (stamp.acceptValue key)).map encode,
      ¬ Text.Utf8.lineBreak <:+: line := by
  simp only [List.forall_mem_map, Text.Utf8.lineBreak_isInfix_encode_iff]
  exact unbroken_responseLines horigin hhost (stamp.unbroken_acceptValue key)

theorem isCut_response :
    Text.IsCut Text.Utf8.lineBreak (stamp.response origin host key)
      ((responseLines origin host (stamp.acceptValue key) ++
        [[], stamp.acceptValue key]).map encode) := by
  have hnil : ¬ Text.Utf8.lineBreak <:+: [] := fun hbreak => absurd hbreak.length_le (by decide)
  have hpieces : ∀ piece ∈ (responseLines origin host (stamp.acceptValue key)).map encode ++ [[]],
      ¬ Text.Utf8.lineBreak <:+: piece :=
    List.forall_mem_append.mpr ⟨unbroken_encode_responseLines stamp key horigin hhost,
      List.forall_mem_singleton.mpr hnil⟩
  have hlast : ¬ Text.Utf8.lineBreak <:+: encode (stamp.acceptValue key) :=
    mt Text.Utf8.lineBreak_isInfix_encode_iff.mp (stamp.unbroken_acceptValue key)
  have hcut := Text.isCut_flatMap (by decide) hpieces hlast
  rw [List.flatMap_append, List.flatMap_singleton, List.nil_append,
    List.append_assoc (List.map encode _)] at hcut
  rw [stamp.response_eq, List.map_append]
  exact hcut

theorem headEnds_response :
    ∃ head, stamp.response origin host key = head ++ encode (stamp.acceptValue key) ∧
      HeadEnds (stamp.response origin host key) head.length := by
  have hnonempty : ∀ line ∈ (responseLines origin host (stamp.acceptValue key)).map encode,
      line ≠ [] := by
    intro line hline hnil
    obtain ⟨text, htext, rfl⟩ := List.mem_map.mp hline
    refine ne_nil_of_mem_responseLines origin host _ text htext ?_
    rw [← Text.Utf8.recover_encode text, hnil, Text.Utf8.recover_nil]
  have hhead : HeadLines _ _ _ :=
    ⟨rfl, unbroken_encode_responseLines stamp key horigin hhost,
      fun line hline => hnonempty line (List.mem_cons_of_mem _ hline)⟩
  refine ⟨_, stamp.response_eq origin host key, ?_⟩
  rw [stamp.response_eq]
  exact hhead.headEnds.append _

end Unbroken

/-- **A client cannot split the response.**  Whatever request is granted, the response to it, for
its own or any other key, cut at its line breaks, has these eight pieces: origin and host of the
request stand within a line each, the accept value ends the last line and stands behind the blank
line.  That blank line is the first one, and it ends 28 octets in front of the end.  This is so for
SHA-1 and Base64, by which `response` is made, and for any other digest of 20 octets that is written
in 28 characters of the same alphabet. -/
theorem response_unsplit (stamp : Stamp) (h : negotiate isEnabled received = .ok request)
    (key : String) :
    let accept := stamp.acceptValue key
    let answer := stamp.response request.metadata.origin request.metadata.host key
    (∀ pieces, Text.IsCut Text.Utf8.lineBreak answer pieces ↔
      pieces =
        ["HTTP/1.1 101 Switching Protocols".toList,
          "Upgrade: websocket".toList,
          "Connection: Upgrade".toList,
          "Sec-WebSocket-Origin: ".toList ++ request.metadata.origin.toList,
          "Sec-WebSocket-Location: ".toList ++ request.metadata.host.toList,
          "Sec-WebSocket-Accept: ".toList ++ accept,
          [],
          accept].map encode) ∧
    ∃ length, headLength? answer = some length ∧ answer.length = length + 28 ∧
      answer.drop length = encode accept := by
  intro accept answer
  obtain ⟨horigin, hhost⟩ := unbroken_origin_host h
  have hcut : Text.IsCut Text.Utf8.lineBreak answer _ := isCut_response stamp key horigin hhost
  refine ⟨fun pieces => ⟨fun hpieces => hpieces.unique hcut, fun hpieces => hpieces ▸ hcut⟩, ?_⟩
  obtain ⟨head, (hanswer : answer = _), hends⟩ := headEnds_response stamp key horigin hhost
  refine ⟨head.length, headLength?_eq_some_iff.mpr hends, ?_, ?_⟩
  · rw [hanswer, List.length_append, stamp.length_encode_acceptValue]
  · rw [hanswer, List.drop_left]

/-- A request with carriage returns and line feeds of its own in its origin and its host. -/
theorem response_unsplit_lone :
    let received : Bytes := Text.Utf8.encodeString
      "GET /a H\r\nOrigin: \n\ro\np\r\r\nHost:h\n\ri\r\nSec-WebSocket-Key: k\r\n\r\n"
    ∃ request, negotiate (fun _ => true) received = .ok request ∧
      request.metadata.origin = "o\np" ∧ request.metadata.host = "h\n\ri" ∧ request.key = "k" ∧
      (∀ pieces, Text.IsCut Text.Utf8.lineBreak (response "o\np" "h\n\ri" "k") pieces ↔
        pieces =
          ["HTTP/1.1 101 Switching Protocols".toList,
            "Upgrade: websocket".toList,
            "Connection: Upgrade".toList,
            "Sec-WebSocket-Origin: ".toList ++ "o\np".toList,
            "Sec-WebSocket-Location: ".toList ++ "h\n\ri".toList,
            "Sec-WebSocket-Accept: ".toList ++ acceptValue "k",
            [],
            acceptValue "k"].map encode) ∧
      ∃ length, headLength? (response "o\np" "h\n\ri" "k") = some length ∧
        (response "o\np" "h\n\ri" "k").length = length + 28 ∧
        (response "o\np" "h\n\ri" "k").drop length = encode (acceptValue "k") := by
  intro received
  have hread : (negotiate (fun _ => true) received).toOption.map
      (fun request => (request.metadata.origin, request.metadata.host, request.key)) =
        some ("o\np", "h\n\ri", "k") := by
    decide +kernel
  cases hverdict : negotiate (fun _ => true) received with
  | error refusal => simp [hverdict, Except.toOption] at hread
  | ok request =>
      simp only [hverdict, Except.toOption, Option.map_some, Option.some.injEq,
        Prod.mk.injEq] at hread
      obtain ⟨horigin, hhost, hkey⟩ := hread
      have hresponse := response_unsplit .standard hverdict request.key
      rw [horigin, hhost, hkey] at hresponse
      exact ⟨request, rfl, horigin, hhost, hkey, hresponse⟩

end Handshake
end SharedListener
