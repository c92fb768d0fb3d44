import SharedListener.Proofs.Router.Pipelining
import SharedListener.Proofs.Router.Trace
import SharedListener.Proofs.Router.Verdict

/-!
# Connections do not interfere

A step of one connection leaves the entries of all others alone, and of the gate
a connection asks one question, once: whether the application of its request is
switched on, when the head of the request is complete (`receive_congr`).  So two
runs look alike to a connection if they have its own steps in common and agree
on that one answer (`Alike`).
-/

namespace SharedListener

open Handshake
open Text.Utf8 (recover)

/-! ## The question to the gate -/

namespace Connection

variable {settings : Settings} {connection : Connection} {chunk : Bytes} {path : String}

/-- With this chunk the head of a request for `path` is complete. -/
def AsksFor (connection : Connection) (chunk : Bytes) (path : String) : Prop :=
  connection.lifecycle ≠ .closed ∧ ∃ buffer length requestLine headerLines,
    connection.state = .unclassified buffer ∧ requestStart <+: buffer ++ chunk ∧
    HeadEnds (buffer ++ chunk) length ∧
    HeadLines ((buffer ++ chunk).take length) requestLine headerLines ∧
    IsPathOf path.toList (recover requestLine)

theorem AsksFor.protocol_eq (h : connection.AsksFor chunk path) :
    connection.protocol = .unclassified := by
  obtain ⟨_, buffer, _, _, _, hstate, _⟩ := h
  rw [protocol, hstate]

/-- Two gates that agree on what a chunk asks for make no difference to it. -/
theorem receive_congr {isEnabled other : String → Bool}
    (hsame : ∀ path, connection.AsksFor chunk path → isEnabled path = other path) :
    connection.receive settings isEnabled chunk = connection.receive settings other chunk := by
  by_cases hclosed : connection.lifecycle = .closed
  · rw [receive, receive, if_pos hclosed, if_pos hclosed]
  cases hstate : connection.state with
  | native | websocket =>
      rw [receive, receive, if_neg hclosed, if_neg hclosed, receiveOpen, receiveOpen, awake_state,
        hstate]
  | unclassified buffer =>
      by_cases hrequest : ¬ Diverges (buffer ++ chunk) ∧ blankLine <:+: buffer ++ chunk
      · obtain ⟨hagree, hblank⟩ := hrequest
        obtain ⟨length, hends⟩ := exists_headEnds hblank
        obtain ⟨requestLine, headerLines, hlines⟩ := hends.exists_headLines
        have hstart : requestStart <+: buffer ++ chunk :=
          requestStart_prefix_of_four_le hagree (four_le_of_blankLine hblank)
        rw [receive_of_headEnds hclosed hstate hagree hends,
          receive_of_headEnds hclosed hstate hagree hends,
          hlines.negotiate_congr (List.prefix_take_iff.mpr ⟨hstart, hends.four_le⟩)]
        intro path hpath
        refine hsame _ ⟨hclosed, buffer, length, requestLine, headerLines, hstate, hstart, hends,
          hlines, ?_⟩
        rwa [String.toList_ofList]
      · -- the gate is not asked
        rw [receive, receive, if_neg hclosed, if_neg hclosed, receiveOpen, receiveOpen, awake_state,
          hstate]
        show receiveUnclassified settings isEnabled connection.awake (buffer ++ chunk) =
          receiveUnclassified settings other connection.awake (buffer ++ chunk)
        unfold receiveUnclassified
        by_cases hdiverges : Diverges (buffer ++ chunk)
        · rw [Prologue.detect_of_diverges _ hdiverges]
        · have hblank : ¬ blankLine <:+: buffer ++ chunk := fun h => hrequest ⟨hdiverges, h⟩
          rw [Prologue.detect_of_not_blankLine _ hdiverges hblank]
          split_ifs <;> rfl

end Connection

namespace Router

variable {router other : Router} {id : ConnectionId}

/-! ## What can be seen of a connection -/

/-- The connection that an input is a step of. -/
def Input.id? : Input → Option ConnectionId
  | .receive id _ | .close id => some id
  | .setEnabled _ _ => none

/-- Whether an input is a step of `id`. -/
def Input.isOf (id : ConnectionId) (input : Input) : Bool :=
  input.id? = some id

/-- Whether an input is a step of `id` or a switch. -/
def Input.concerns (id : ConnectionId) (input : Input) : Bool :=
  input.id?.all (· = id)

/-- The connection that a record is about. -/
def Record.id? : Record → Option ConnectionId
  | .received id _ _ | .closed id _ => some id
  | .switched _ _ => none

namespace History

/-- What was returned for `id`, in order, and what can be seen of it now. -/
def view (history : History) (id : ConnectionId) : List Record × Option Snapshot :=
  (history.records.filter fun record => record.id? = some id, history.router.snapshot? id)

/-- The two histories look alike to `id`, and its next chunk meets the same connection. -/
structure Alike (id : ConnectionId) (history other : History) : Prop where
  settings_eq : history.router.settings = other.router.settings
  entry_eq : history.router.connections[id]? = other.router.connections[id]?
  records_eq : (history.view id).1 = (other.view id).1

variable {history other : History} {input : Input}

theorem Alike.symm (h : Alike id history other) : Alike id other history :=
  ⟨h.settings_eq.symm, h.entry_eq.symm, h.records_eq.symm⟩

theorem Alike.trans {third : History} (h : Alike id history other)
    (hnext : Alike id other third) : Alike id history third :=
  ⟨h.settings_eq.trans hnext.settings_eq, h.entry_eq.trans hnext.entry_eq,
    h.records_eq.trans hnext.records_eq⟩

theorem Alike.view_eq (h : Alike id history other) : history.view id = other.view id := by
  refine Prod.ext h.records_eq ?_
  show history.router.snapshot? id = other.router.snapshot? id
  rw [snapshot?, snapshot?, h.entry_eq]

private theorem close_fst (router : Router) (id : ConnectionId) :
    (router.close id).1 = router.connections[id]?.map fun connection =>
      ⟨id, connection.protocol, .closed, connection.metadata⟩ := by
  unfold close
  cases router.connections[id]? <;> rfl

/-- What is no step of `id` leaves it as it was. -/
theorem alike_step (history : History) (hother : input.isOf id = false) :
    Alike id (history.step input) history := by
  cases input with
  | receive other chunk =>
      have hne : other ≠ id := by simpa [Input.isOf, Input.id?] using hother
      refine ⟨step_settings history _, by rw [step_receive, if_neg hne], ?_⟩
      simp [view, step, Record.id?, hne]
  | close other =>
      have hne : other ≠ id := by simpa [Input.isOf, Input.id?] using hother
      refine ⟨step_settings history _, by rw [step_close, if_neg hne], ?_⟩
      simp [view, step, Record.id?, hne]
  | setEnabled app enabled =>
      exact ⟨rfl, rfl, by simp [view, step, Record.id?]⟩

/-- A step of `id` does the same in both histories, if a request finds the same answer. -/
theorem Alike.step (h : Alike id history other) (hown : input.isOf id)
    (hgate : ∀ chunk path, input = .receive id chunk →
      (history.connection id).AsksFor chunk path →
      history.router.scopes.isEnabled path = other.router.scopes.isEnabled path) :
    Alike id (history.step input) (other.step input) := by
  have hsettings : (history.step input).router.settings = (other.step input).router.settings := by
    rw [step_settings, step_settings, h.settings_eq]
  cases input with
  | receive receiver chunk =>
      obtain rfl : receiver = id := by simpa [Input.isOf, Input.id?] using hown
      have hreceive : (history.connection receiver).receive history.router.settings
          history.router.scopes.isEnabled chunk =
          (other.connection receiver).receive other.router.settings
            other.router.scopes.isEnabled chunk := by
        rw [Connection.receive_congr fun path => hgate chunk path rfl, h.settings_eq,
          History.connection, History.connection, h.entry_eq]
      have haction : (history.router.receive receiver chunk).1 =
          (other.router.receive receiver chunk).1 := congrArg Connection.Step.action hreceive
      refine ⟨hsettings, ?_, ?_⟩
      · rw [step_receive, step_receive, if_pos rfl, if_pos rfl, hreceive]
      · have hrecords := h.records_eq
        simp only [view, History.step, List.filter_append] at hrecords ⊢
        rw [hrecords, haction]
  | close closed =>
      obtain rfl : closed = id := by simpa [Input.isOf, Input.id?] using hown
      refine ⟨hsettings, ?_, ?_⟩
      · rw [step_close, step_close, if_pos rfl, if_pos rfl]
      · have hrecords := h.records_eq
        simp only [view, History.step, List.filter_append] at hrecords ⊢
        rw [hrecords, close_fst, close_fst, h.entry_eq]
  | setEnabled app enabled => cases hown

end History

/-! ## Two runs -/

open History (Alike)

/-- What is no step of `id` may as well be left out at the end of a run. -/
theorem alike_run_append (router : Router) (inputs : List Input) {more : List Input}
    (hmore : more.filter (Input.isOf id) = []) :
    Alike id (run router (inputs ++ more)) (run router inputs) := by
  induction more using List.reverseRecOn with
  | nil =>
      rw [List.append_nil]
      exact ⟨rfl, rfl, rfl⟩
  | append_singleton more input ih =>
      rw [List.filter_append, List.append_eq_nil_iff] at hmore
      have hother : input.isOf id = false := by simpa using hmore.2
      rw [← List.append_assoc, run_concat]
      exact (History.alike_step _ hother).trans (ih hmore.1)

/-- Two runs with the same switches in the same order know the same gate. -/
private theorem isEnabled_run_congr (happs : router.scopes.apps = other.scopes.apps)
    {inputs others : List Input}
    (hswitches : inputs.filterMap Input.switch? = others.filterMap Input.switch?) :
    (run router inputs).router.scopes.isEnabled = (run other others).router.scopes.isEnabled := by
  have hsame : (run router inputs).router.scopes.apps = (run other others).router.scopes.apps := by
    rw [apps_run, apps_run, hswitches, happs]
  funext path
  unfold Scope.Registry.isEnabled Scope.Registry.isAppEnabled
  rw [hsame]

/-- A selection with all switches in it has the same switches. -/
private theorem switches_filter (keep : Input → Bool)
    (hkeep : ∀ app enabled, keep (.setEnabled app enabled)) (inputs : List Input) :
    (inputs.filter keep).filterMap Input.switch? = inputs.filterMap Input.switch? := by
  rw [List.filterMap_filter]
  congr 1
  funext input
  cases input <;> simp [Input.switch?, hkeep]

/-- The steps of all other connections may be left out. -/
theorem alike_run_filter (hsettings : router.settings = other.settings)
    (hentry : router.connections[id]? = other.connections[id]?)
    (happs : router.scopes.apps = other.scopes.apps) (inputs : List Input) :
    Alike id (run router inputs) (run other (inputs.filter (Input.concerns id))) := by
  induction inputs using List.reverseRecOn with
  | nil => exact ⟨hsettings, hentry, rfl⟩
  | append_singleton inputs input ih =>
      rw [run_concat, List.filter_append]
      by_cases hown : input.isOf id
      · have hkept : [input].filter (Input.concerns id) = [input] := by
          cases input <;> simp_all [Input.concerns, Input.isOf, Input.id?]
        rw [hkept, run_concat]
        refine ih.step hown fun chunk path _ _ => ?_
        have hswitches := switches_filter (Input.concerns id) (fun _ _ => rfl) inputs
        rw [isEnabled_run_congr happs hswitches.symm]
      · have hother : input.isOf id = false := by simpa using hown
        have hnone : ([input].filter (Input.concerns id)).filter (Input.isOf id) = [] := by
          rw [List.filter_filter]
          simp [hother]
        exact (History.alike_step _ hother).trans (ih.trans (alike_run_append other _ hnone).symm)

/-- What the switches and the other connections do makes no difference, if every request of `id`
finds the same answer. -/
theorem alike_run (hsettings : router.settings = other.settings)
    (hentry : router.connections[id]? = other.connections[id]?) {inputs others : List Input}
    (hown : inputs.filter (Input.isOf id) = others.filter (Input.isOf id))
    (hgate : ∀ before before' chunk path, before ++ [.receive id chunk] <+: inputs →
      before' ++ [.receive id chunk] <+: others →
      before.filter (Input.isOf id) = before'.filter (Input.isOf id) →
      ((run router before).connection id).AsksFor chunk path →
      (run router before).router.scopes.isEnabled path =
        (run other before').router.scopes.isEnabled path) :
    Alike id (run router inputs) (run other others) := by
  induction inputs using List.reverseRecOn generalizing others with
  | nil =>
      have hstart : Alike id (run router []) (run other []) := ⟨hsettings, hentry, rfl⟩
      exact hstart.trans (alike_run_append other [] hown.symm).symm
  | append_singleton inputs input ih =>
      rw [run_concat]
      by_cases hinput : input.isOf id
      · -- the others have the same step somewhere, and no step of `id` behind it
        rw [List.filter_append, List.filter_cons_of_pos hinput, List.filter_nil] at hown
        obtain ⟨first, rest, rfl, hfirst, hrest⟩ := List.filter_eq_append_iff.mp hown.symm
        obtain ⟨skipped, behind, rfl, hskipped, -, hbehind⟩ := List.filter_eq_cons_iff.mp hrest
        have hsplit : first ++ (skipped ++ input :: behind) =
            first ++ skipped ++ [input] ++ behind := by simp
        have hsame : inputs.filter (Input.isOf id) = (first ++ skipped).filter (Input.isOf id) := by
          rw [List.filter_append, hfirst, List.filter_eq_nil_iff.mpr hskipped, List.append_nil]
        rw [hsplit] at hgate ⊢
        have halike := ih hsame fun before before' chunk path hbefore hbefore' =>
          hgate before before' chunk path (hbefore.trans (List.prefix_append _ _))
            (hbefore'.trans ((List.prefix_append _ _).trans (List.prefix_append _ _)))
        refine Alike.trans ?_ (alike_run_append other _ hbehind).symm
        rw [run_concat]
        refine halike.step hinput fun chunk path heq => ?_
        subst heq
        exact hgate inputs (first ++ skipped) chunk path (List.prefix_refl _)
          (List.prefix_append _ _) hsame
      · have hother : input.isOf id = false := by simpa using hinput
        rw [List.filter_append, List.filter_cons_of_neg (by simp [hother]), List.filter_nil,
          List.append_nil] at hown
        have halike := ih hown fun before before' chunk path hbefore =>
          hgate before before' chunk path (hbefore.trans (List.prefix_append _ _))
        exact (History.alike_step _ hother).trans halike

/-! ## Noninterference -/

/-- **Connections do not interfere.**  What is returned for a connection and what can be seen of it
is the same in two runs

* if the steps of all other connections are left out of one of them;
* if they have the steps of the connection in common, and whenever the head of its request is
  complete the application of that request is switched on in both or in neither;
* if they have a run in common in which the connection was upgraded, and from then on its steps, as
  long as its entry is not dropped;
* if one begins after the entry was dropped, and the other one where the connection was never heard
  of. -/
theorem run_isolated (router : Router) (id : ConnectionId) :
    (∀ inputs, (run router inputs).view id =
      (run router (inputs.filter (Input.concerns id))).view id) ∧
    (∀ inputs others, inputs.filter (Input.isOf id) = others.filter (Input.isOf id) →
      (∀ before before' chunk path app, before ++ [.receive id chunk] <+: inputs →
        before' ++ [.receive id chunk] <+: others →
        before.filter (Input.isOf id) = before'.filter (Input.isOf id) →
        ((run router before).connection id).AsksFor chunk path →
        Scope.applicationOf path = some app →
        (run router before).router.scopes.isAppEnabled app =
          (run router before').router.scopes.isAppEnabled app) →
      (run router inputs).view id = (run router others).view id) ∧
    (∀ before more others, (run router before).router.protocol? id = some .websocket →
      .close id ∉ more → more.filter (Input.isOf id) = others.filter (Input.isOf id) →
      (run (run router before).router more).view id =
        (run (run router before).router others).view id) ∧
    (router.connections[id]? = none → ∀ before after,
      (run (run router (before ++ [.close id])).router after).view id =
        (run (run router (before.filter fun input => !input.isOf id)).router after).view id) := by
  refine ⟨?_, ?_, ?_, ?_⟩
  · exact fun inputs => (alike_run_filter rfl rfl rfl inputs).view_eq
  · intro inputs others hown hflags
    refine (alike_run rfl rfl hown ?_).view_eq
    intro before before' chunk path hbefore hbefore' hsame hasks
    unfold Scope.Registry.isEnabled
    cases happ : Scope.applicationOf path with
    | none => rfl
    | some app => exact hflags before before' chunk path app hbefore hbefore' hsame hasks happ
  · intro before more others hwebsocket hmore hown
    refine (alike_run rfl rfl hown ?_).view_eq
    intro earlier _ chunk path hearlier _ _ hasks
    -- an upgraded connection stays one, and asks for nothing
    have hknown : ((run (run router before).router []).connection id).protocol = .websocket := by
      show ((run router before).router.connections[id]?.getD {}).protocol = .websocket
      obtain ⟨connection, hconnection, hprotocol⟩ := Option.map_eq_some_iff.mp hwebsocket
      rw [hconnection]
      exact hprotocol
    have hstays : ((run (run router before).router ([] ++ earlier)).connection id).protocol =
        ((run (run router before).router []).connection id).protocol := by
      refine protocol_run_append [] (fun hclose => hmore ?_) ?_
      · exact hearlier.subset (List.mem_append_left _ hclose)
      · rw [hknown]
        exact Protocol.noConfusion
    rw [List.nil_append, hasks.protocol_eq, hknown] at hstays
    exact Protocol.noConfusion hstays
  · intro habsent before after
    have hnever : Alike id (run router (before.filter fun input => !input.isOf id))
        (run router []) := by
      refine alike_run_append router [] ?_
      rw [List.filter_filter]
      simp
    have hsettings : (run router (before ++ [.close id])).router.settings =
        (run router (before.filter fun input => !input.isOf id)).router.settings := by
      rw [run_settings, run_settings]
    have hentry : (run router (before ++ [.close id])).router.connections[id]? =
        (run router (before.filter fun input => !input.isOf id)).router.connections[id]? := by
      rw [hnever.entry_eq, run_concat, History.step_close, if_pos rfl]
      exact habsent.symm
    have happs : (run router (before ++ [.close id])).router.scopes.apps =
        (run router (before.filter fun input => !input.isOf id)).router.scopes.apps := by
      rw [apps_run, apps_run, List.filterMap_append,
        switches_filter (fun input => !input.isOf id) fun _ _ => rfl]
      exact congrArg _ (List.append_nil _)
    exact ((alike_run_filter hsettings hentry happs after).trans
      (alike_run_filter rfl rfl rfl after).symm).view_eq

/-- A switch that is set again before the request, one that is set to off behind it, and a second
connection of the same number. -/
theorem run_isolated_seven :
    let request : Input := .receive 7 liveRequest
    let frame : Input := .receive 7 [0x81, 0x01, 0x78]
    (run liveRouter [.receive 8 [0x58], request]).view 7 = (run liveRouter [request]).view 7 ∧
    (run liveRouter [.setEnabled "a" true, request]).view 7 = (run liveRouter [request]).view 7 ∧
    (run liveRouter [request]).router.protocol? 7 = some .websocket ∧
    (run (run liveRouter [request]).router [.setEnabled "a" false, frame]).view 7 =
      (run (run liveRouter [request]).router [frame]).view 7 ∧
    liveRouter.connections[(7 : ConnectionId)]? = none ∧
    (run (run liveRouter ([request] ++ [.close 7])).router [request]).view 7 =
      (run (run liveRouter []).router [request]).view 7 := by
  intro request frame
  obtain ⟨hothers, hswitches, hupgraded, hclosed⟩ := run_isolated liveRouter 7
  have hwebsocket : (run liveRouter [request]).router.protocol? 7 = some .websocket := by rfl
  have habsent : liveRouter.connections[(7 : ConnectionId)]? = none := by rfl
  refine ⟨hothers [.receive 8 [0x58], request], hswitches _ _ rfl ?_, hwebsocket,
    hupgraded [request] _ _ hwebsocket (by simp [frame]) rfl, habsent,
    hclosed habsent [request] [request]⟩
  intro before before' chunk path app hbefore hbefore' _ _ _
  -- in front of the request there is at most the switch
  have hnone : before' = [] := by
    have hlength := hbefore'.length_le
    simpa using hlength
  have hsome : before = [] ∨ before = [.setEnabled "a" true] := by
    rcases before with _ | ⟨first, _ | ⟨second, rest⟩⟩
    · exact .inl rfl
    · obtain ⟨rfl, -⟩ := List.cons_prefix_cons.mp hbefore
      exact .inr rfl
    · have hlength := hbefore.length_le
      simp at hlength
  subst hnone
  rcases hsome with rfl | rfl
  · rfl
  · show (liveRouter.scopes.apps.insert "a" true)[app]?.getD false =
      (((∅ : Std.ExtTreeMap String Bool).insert "a" true)[app]?).getD false
    have hlive : liveRouter.scopes.apps = (∅ : Std.ExtTreeMap String Bool).insert "a" true := rfl
    simp only [hlive, Std.ExtTreeMap.getElem?_insert]
    split_ifs <;> rfl

end Router
end SharedListener
