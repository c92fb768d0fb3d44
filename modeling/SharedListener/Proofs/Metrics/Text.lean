import SharedListener.Proofs.Metrics.Sample
import SharedListener.Proofs.Metrics.Series

/-!
# What the text of metrics says

Nothing that a gateway counted is lost in the text of its metrics (`render_lossless`).
The text in front of the closing lines, cut at line feeds, is one block for each of the
seven families, and a block has one sample for all calls with the same labels up to
their order.

A family knows the labels that its calls had, and no others (`mem_keys_ofCalls`): each
call touches the sorted list of its labels in its own family.  The samples of a series
are its entries, in whatever order these come (`Series.samples`), and its block has a
line for each of them (`Series.block_eq`).
-/

namespace SharedListener.Metrics

/-! ## The samples of one series -/

namespace Series

variable {number : Type} {series : Series number} {arrangement : Arrangement} {name : String}
  {value : number → ℤ}

/-- A sample for each number of the series. -/
def samples (series : Series number) (arrangement : Arrangement) (name : String)
    (value : number → ℤ) : List Sample :=
  (arrangement.arrange name series.toList).map fun (labels, number) => ⟨name, labels, value number⟩

theorem map_labels_samples (series : Series number) (arrangement : Arrangement) (name : String)
    (value : number → ℤ) :
    ((series.samples arrangement name value).map Sample.labels).Perm series.keys := by
  rw [samples, List.map_map, ← Std.ExtTreeMap.map_fst_toList_eq_keys]
  exact (arrangement.perm name series.toList).map Prod.fst

theorem of_mem_samples [OfNat number 0] (hsorted : ∀ key ∈ series.keys, sortLabels key = key)
    {sample : Sample} (h : sample ∈ series.samples arrangement name value) :
    sample.name = name ∧ sample.number = value (series.get sample.labels) := by
  obtain ⟨⟨labels, amount⟩, hitem, rfl⟩ := List.mem_map.mp h
  rw [(arrangement.perm name series.toList).mem_iff] at hitem
  have hfound := Std.ExtTreeMap.mem_toList_iff_getElem?_eq_some.mp hitem
  have hmem : labels ∈ series.keys :=
    Std.ExtTreeMap.mem_keys.mpr (Std.ExtTreeMap.mem_iff_isSome_getElem?.mpr (by simp [hfound]))
  refine ⟨rfl, congrArg value ?_⟩
  rw [get, hsorted labels hmem, Std.ExtTreeMap.getD_eq_getD_getElem?, hfound, Option.getD_some]

/-- No labels stand twice among keys, not even in another order. -/
theorem pairwise_keys (hsorted : ∀ key ∈ series.keys, sortLabels key = key) :
    series.keys.Pairwise fun first second => ¬ first.Perm second := by
  refine Std.ExtTreeMap.distinct_keys.imp_of_mem fun hfirst hsecond hne hperm => hne ?_
  rw [Std.LawfulEqCmp.compare_eq_iff_eq, ← hsorted _ hfirst, ← hsorted _ hsecond,
    sortLabels_eq_iff]
  exact hperm

/-- The block of a series is its type and its samples. -/
theorem block_eq (series : Series number) {numberText : number → String}
    (htext : ∀ amount, numberText amount = toString (value amount)) (type : String) :
    series.block arrangement name type numberText =
      ("# TYPE " ++ name ++ " " ++ type) ::
        (series.samples arrangement name value).map fun sample => String.ofList sample.line := by
  rw [block, samples, List.map_map, funext htext]
  rfl

end Series

/-! ## Families -/

/-- The series that are counters. -/
inductive CounterFamily where
  | accepted | classifications | rejections | forwarded | decodeErrors | closeFrames
deriving DecidableEq

/-- The series of a gateway. -/
inductive Family where
  | counter (which : CounterFamily)
  | active
deriving DecidableEq

namespace Family

/-- All families, in the order of their blocks. -/
def all : List Family :=
  [.counter .accepted, .active, .counter .classifications, .counter .rejections,
    .counter .forwarded, .counter .decodeErrors, .counter .closeFrames]

def name : Family → String
  | .counter .accepted => "wsmux_connections_accepted_total"
  | .active => "wsmux_connections_active"
  | .counter .classifications => "wsmux_classifications_total"
  | .counter .rejections => "wsmux_handshake_rejections_total"
  | .counter .forwarded => "wsmux_forwarded_bytes_total"
  | .counter .decodeErrors => "wsmux_decode_errors_total"
  | .counter .closeFrames => "wsmux_close_frames_total"

def type : Family → String
  | .counter _ => "counter"
  | .active => "gauge"

/-- The line in front of the samples of a family. -/
def typeLine (family : Family) : List Char :=
  ("# TYPE " ++ family.name ++ " " ++ family.type).toList

theorem mem_all (family : Family) : family ∈ all := by
  rcases family with (_ | _ | _ | _ | _ | _) | _ <;> decide

theorem clean (family : Family) :
    '\x7b' ∉ family.name.toList ∧ '\n' ∉ family.name.toList ∧ '\n' ∉ family.typeLine := by
  rcases family with (_ | _ | _ | _ | _ | _) | _ <;> decide +kernel

end Family

variable (metrics : Metrics) (arrangement : Arrangement)

/-- The counter of a family. -/
def counter : CounterFamily → Counter
  | .accepted => metrics.accepted
  | .classifications => metrics.classifications
  | .rejections => metrics.rejections
  | .forwarded => metrics.forwarded
  | .decodeErrors => metrics.decodeErrors
  | .closeFrames => metrics.closeFrames

/-- Changes the counter of a family. -/
def onCounter (change : Counter → Counter) : CounterFamily → Metrics
  | .accepted => { metrics with accepted := change metrics.accepted }
  | .classifications => { metrics with classifications := change metrics.classifications }
  | .rejections => { metrics with rejections := change metrics.rejections }
  | .forwarded => { metrics with forwarded := change metrics.forwarded }
  | .decodeErrors => { metrics with decodeErrors := change metrics.decodeErrors }
  | .closeFrames => { metrics with closeFrames := change metrics.closeFrames }

/-- The number of a family under some labels. -/
def value : Family → List Label → ℤ
  | .counter which, labels => ((metrics.counter which).get labels).toNat
  | .active, labels => (metrics.active.get labels).toInt

/-- The labels that a family has numbers for. -/
def keys : Family → List LabelList
  | .counter which => (metrics.counter which).keys
  | .active => metrics.active.keys

/-- The lines of a family. -/
def block : Family → List String
  | .counter which => counterBlock arrangement (Family.counter which).name (metrics.counter which)
  | .active => gaugeBlock arrangement Family.active.name metrics.active

/-- The samples of a family. -/
def samples : Family → List Sample
  | .counter which =>
    (metrics.counter which).samples arrangement (Family.counter which).name fun amount =>
      amount.toNat
  | .active => metrics.active.samples arrangement Family.active.name Int64.toInt

theorem seriesLines_eq :
    metrics.seriesLines arrangement = Family.all.flatMap (metrics.block arrangement) := by
  simp only [seriesLines, Family.all, List.flatMap_cons, List.flatMap_nil, List.append_nil,
    List.append_assoc]
  rfl

variable {arrangement}

theorem counter_onCounter (change : Counter → Counter) (which other : CounterFamily) :
    (metrics.onCounter change which).counter other =
      if which = other then change (metrics.counter other) else metrics.counter other := by
  cases which <;> cases other <;> rfl

theorem active_onCounter (change : Counter → Counter) (which : CounterFamily) :
    (metrics.onCounter change which).active = metrics.active := by
  cases which <;> rfl

/-! ## Calls -/

/-- An update of one of the series. -/
inductive Call where
  | counter (which : CounterFamily) (call : Counter.Call)
  | active (call : Gauge.Call)

namespace Call

def family : Call → Family
  | .counter which _ => .counter which
  | .active _ => .active

def labels : Call → List Label
  | .counter _ call => call.labels
  | .active call => call.labels

end Call

/-- The metrics after a call. -/
def after : Call → Metrics
  | .counter which call => metrics.onCounter (Counter.after · call) which
  | .active call => { metrics with active := metrics.active.after call }

/-- The metrics of a gateway, draining or not, after any calls. -/
def ofCalls (draining : Bool) (calls : List Call) : Metrics :=
  calls.foldl after { draining }

variable {metrics} {family : Family} {labels : LabelList} {draining : Bool} {calls : List Call}

/-- A call touches the labels that it has, in its own family. -/
theorem mem_keys_after (call : Call) :
    labels ∈ (metrics.after call).keys family ↔
      (call.family = family ∧ sortLabels call.labels = labels) ∨
        labels ∈ metrics.keys family := by
  rcases call with ⟨which, call⟩ | call <;> rcases family with other | _
  · show labels ∈ ((metrics.onCounter (Counter.after · call) which).counter other).keys ↔ _
    rw [counter_onCounter]
    split_ifs with hsame
    · subst hsame
      rw [Std.ExtTreeMap.mem_keys, Counter.after_eq, Series.mem_add]
      simp [Call.family, Call.labels, keys]
    · simp [Call.family, hsame, keys]
  · show labels ∈ (metrics.onCounter (Counter.after · call) which).active.keys ↔ _
    rw [active_onCounter]
    simp [Call.family, keys]
  · simp [Call.family, keys, after, counter]
  · show labels ∈ (metrics.active.after call).keys ↔ _
    rw [Std.ExtTreeMap.mem_keys, Gauge.after_eq, Series.mem_add]
    simp [Call.family, Call.labels, keys]

/-- The labels of a family are those of its calls. -/
theorem mem_keys_ofCalls :
    labels ∈ (ofCalls draining calls).keys family ↔
      ∃ call ∈ calls, call.family = family ∧ sortLabels call.labels = labels := by
  have hrun : ∀ metrics : Metrics, labels ∈ (calls.foldl after metrics).keys family ↔
      (∃ call ∈ calls, call.family = family ∧ sortLabels call.labels = labels) ∨
        labels ∈ metrics.keys family := by
    induction calls with
    | nil => simp
    | cons call calls ih =>
        intro metrics
        rw [List.foldl_cons, ih, mem_keys_after, List.exists_mem_cons_iff, or_left_comm, or_assoc]
  rw [ofCalls, hrun, or_iff_left]
  rcases family with (_ | _ | _ | _ | _ | _) | _ <;> exact List.not_mem_nil

/-! ## The samples of a family -/

/-- Samples that say what calls of a family came to: one for all calls with the same labels up to
their order, under these labels in increasing order, with the number that the metrics have. -/
structure SamplesOf (metrics : Metrics) (calls : List Call) (family : Family)
    (samples : List Sample) : Prop where
  touched : ∀ labels, labels ∈ samples.map Sample.labels ↔
    ∃ call ∈ calls, call.family = family ∧ sortLabels call.labels = labels
  distinct : (samples.map Sample.labels).Pairwise fun first second => ¬ first.Perm second
  current : ∀ sample ∈ samples,
    sample.name = family.name ∧ sample.number = metrics.value family sample.labels

/-- The samples of a family are for the labels that it knows. -/
theorem map_labels_samples (metrics : Metrics) (arrangement : Arrangement) (family : Family) :
    ((metrics.samples arrangement family).map Sample.labels).Perm (metrics.keys family) := by
  rcases family with which | _ <;> rw [samples, keys]
  · exact Series.map_labels_samples (metrics.counter which) arrangement _ _
  · exact Series.map_labels_samples metrics.active arrangement _ _

theorem sortLabels_of_mem_keys (family : Family)
    (h : labels ∈ (ofCalls draining calls).keys family) : sortLabels labels = labels := by
  obtain ⟨call, -, -, rfl⟩ := mem_keys_ofCalls.mp h
  exact sortLabels_eq_iff.mpr (sortLabels_perm call.labels)

theorem pairwise_keys_ofCalls (draining : Bool) (calls : List Call) (family : Family) :
    ((ofCalls draining calls).keys family).Pairwise fun first second => ¬ first.Perm second := by
  rcases family with which | _
  · exact Series.pairwise_keys fun _ => sortLabels_of_mem_keys (.counter which)
  · exact Series.pairwise_keys fun _ => sortLabels_of_mem_keys .active

theorem samplesOf_ofCalls (arrangement : Arrangement) (draining : Bool) (calls : List Call)
    (family : Family) :
    SamplesOf (ofCalls draining calls) calls family
      ((ofCalls draining calls).samples arrangement family) where
  touched labels := by
    rw [(map_labels_samples _ arrangement family).mem_iff, mem_keys_ofCalls]
  distinct := by
    have hsymm {first second : LabelList} (hne : ¬ first.Perm second) : ¬ second.Perm first :=
      fun hsame => hne hsame.symm
    exact ((map_labels_samples _ arrangement family).pairwise_iff hsymm).mpr
      (pairwise_keys_ofCalls draining calls family)
  current sample hsample := by
    rcases family with which | _ <;> rw [samples] at hsample
    · exact Series.of_mem_samples (fun _ => sortLabels_of_mem_keys (.counter which)) hsample
    · exact Series.of_mem_samples (fun _ => sortLabels_of_mem_keys .active) hsample

/-- Sorted labels have the names that they had before. -/
theorem names_sortLabels {labels : List Label} (h : ∀ label ∈ labels, IsLabelName label.1) :
    ∀ label ∈ sortLabels labels, IsLabelName label.1 := fun label hlabel =>
  h label ((sortLabels_perm labels).mem_iff.mp hlabel)

theorem SamplesOf.isReadable {samples : List Sample} (h : SamplesOf metrics calls family samples)
    (hnames : ∀ call ∈ calls, ∀ label ∈ call.labels, IsLabelName label.1) :
    ∀ sample ∈ samples, sample.IsReadable := by
  intro sample hsample
  obtain ⟨hbrace, hfeed, -⟩ := family.clean
  obtain ⟨hname, -⟩ := h.current sample hsample
  obtain ⟨call, hcall, -, hlabels⟩ := (h.touched sample.labels).mp (List.mem_map_of_mem hsample)
  exact ⟨hname ▸ hbrace, hname ▸ hfeed, hlabels ▸ names_sortLabels (hnames call hcall)⟩

theorem block_eq (metrics : Metrics) (arrangement : Arrangement) (family : Family) :
    metrics.block arrangement family =
      String.ofList family.typeLine ::
        (metrics.samples arrangement family).map fun sample => String.ofList sample.line := by
  rw [Family.typeLine, String.ofList_toList]
  rcases family with which | _ <;> rw [samples]
  · have htext (amount : UInt64) : toString amount.toNat = toString (amount.toNat : ℤ) := rfl
    exact Series.block_eq (metrics.counter which) htext "counter"
  · have htext (amount : Int64) : toString amount.toInt = toString amount.toInt := rfl
    exact Series.block_eq metrics.active htext "gauge"

/-! ## The whole text -/

/-- Lines with a line feed behind each. -/
def textOf (lines : List String) : List Char :=
  lines.flatMap fun line => line.toList ++ ['\n']

theorem toList_render (metrics : Metrics) (arrangement : Arrangement)
    (extra : List (String × Nat)) :
    (metrics.render arrangement extra).toList =
      textOf (metrics.seriesLines arrangement) ++ textOf (metrics.closingLines extra) := by
  simp [render, String.toList_join, textOf, List.flatMap_map]

theorem cut_textOf {lines : List String} (h : ∀ line ∈ lines.map String.toList, '\n' ∉ line) :
    Text.cut '\n' (textOf lines) = lines.map String.toList ++ [[]] := by
  rw [← Text.cut_flatMap h, List.flatMap_map]
  rfl

/-- **Nothing that was counted is lost in the text.**  After any calls with label names that are
names, and with any label values, the text of the metrics is its closing lines and in front of them,
cut at line feeds, the type of each family and its samples: one for all calls with the same labels
up to their order, which reads back as these labels in increasing order and the number that the
family has under them.  This is so in whatever order the entries of a series come.  Labels that
differ in more than their order are written differently. -/
theorem render_lossless (arrangement : Arrangement) (draining : Bool) {calls : List Call}
    (hnames : ∀ call ∈ calls, ∀ label ∈ call.labels, IsLabelName label.1) :
    let metrics := ofCalls draining calls
    (∃ (before : List Char) (samples : Family → List Sample),
      (∀ extra, (metrics.render arrangement extra).toList =
        before ++ textOf (metrics.closingLines extra)) ∧
      Text.cut '\n' before =
        (Family.all.flatMap fun family => family.typeLine :: (samples family).map Sample.line) ++
          [[]] ∧
      ∀ family, SamplesOf metrics calls family (samples family) ∧
        ∀ sample ∈ samples family, Sample.read? sample.line = some sample) ∧
    ∀ first second : List Label, (∀ label ∈ first, IsLabelName label.1) →
      (∀ label ∈ second, IsLabelName label.1) →
      (labelsText (sortLabels first) = labelsText (sortLabels second) ↔ first.Perm second) := by
  intro metrics
  constructor
  · have hsamples := samplesOf_ofCalls arrangement draining calls
    have hreadable := fun family => (hsamples family).isReadable hnames
    have hlines : (metrics.seriesLines arrangement).map String.toList =
        Family.all.flatMap fun family =>
          family.typeLine :: (metrics.samples arrangement family).map Sample.line := by
      rw [seriesLines_eq, List.map_flatMap]
      refine List.flatMap_congr fun family _ => ?_
      rw [block_eq]
      simp
    have hfree : ∀ line ∈ (metrics.seriesLines arrangement).map String.toList, '\n' ∉ line := by
      rw [hlines]
      intro line hline
      obtain ⟨family, -, hline⟩ := List.mem_flatMap.mp hline
      rcases List.mem_cons.mp hline with rfl | hline
      · exact family.clean.2.2
      · obtain ⟨sample, hsample, rfl⟩ := List.mem_map.mp hline
        exact Sample.feed_notMem_line (hreadable family sample hsample)
    refine ⟨textOf (metrics.seriesLines arrangement), metrics.samples arrangement,
      toList_render metrics arrangement, ?_, fun family => ⟨hsamples family, ?_⟩⟩
    · rw [cut_textOf hfree, hlines]
    · intro sample hsample
      exact Sample.read?_line (hreadable family sample hsample)
  · intro first second hfirst hsecond
    rw [labelsText_inj (names_sortLabels hfirst) (names_sortLabels hsecond), sortLabels_eq_iff]

/-- Braces, quotes and line feeds in a value, an empty value, and labels in another order. -/
theorem render_lossless_hostile :
    let hostile := "a\"\n\\\x7d 1\n, b=\"\x7b"
    let calls : List Call :=
      [.counter .forwarded (.add [("kind", hostile), ("a", "")] 5), .active (.decrement []),
        .counter .forwarded (.add [("a", ""), ("kind", hostile)] 2)]
    (∀ call ∈ calls, ∀ label ∈ call.labels, IsLabelName label.1) ∧
      ∃ before, (∀ extra, ((ofCalls false calls).render .byLabels extra).toList =
          before ++ textOf ((ofCalls false calls).closingLines extra)) ∧
        ∃ line ∈ Text.cut '\n' before, Sample.read? line =
          some ⟨"wsmux_forwarded_bytes_total", [("a", ""), ("kind", hostile)], 7⟩ := by
  intro hostile calls
  have hnames : ∀ call ∈ calls, ∀ label ∈ call.labels, IsLabelName label.1 := by
    have hkind : IsLabelName "kind" :=
      ⟨'k', ['i', 'n', 'd'], by decide +kernel, .inl rfl, by simp⟩
    have ha : IsLabelName "a" := ⟨'a', [], by decide +kernel, .inl rfl, by simp⟩
    simp only [calls, Call.labels, Counter.Call.labels, Gauge.Call.labels, List.forall_mem_cons,
      hkind, ha]
    simp
  refine ⟨hnames, ?_⟩
  obtain ⟨⟨before, samples, hrender, hcut, hall⟩, -⟩ := render_lossless .byLabels false hnames
  obtain ⟨hsamples, hread⟩ := hall (.counter .forwarded)
  obtain ⟨sample, hsample, hlabels⟩ := List.mem_map.mp
    ((hsamples.touched _).mpr ⟨_, List.mem_cons_self, rfl, rfl⟩)
  obtain ⟨hname, hvalue⟩ := hsamples.current sample hsample
  refine ⟨before, hrender, sample.line, ?_, ?_⟩
  · rw [hcut]
    refine List.mem_append_left _
      (List.mem_flatMap.mpr ⟨_, Family.mem_all (.counter .forwarded), ?_⟩)
    exact List.mem_cons_of_mem _ (List.mem_map_of_mem hsample)
  · have hsorted : sortLabels [("kind", hostile), ("a", "")] = [("a", ""), ("kind", hostile)] :=
      (sortLabels_eq_iff.mpr (List.Perm.swap _ _ _)).trans
        (List.mergeSort_of_pairwise (by decide +kernel))
    have hseven : (ofCalls false calls).value (.counter .forwarded)
        [("a", ""), ("kind", hostile)] = 7 := by
      show (((Counter.ofCalls [.add [("kind", hostile), ("a", "")] 5,
        .add [("a", ""), ("kind", hostile)] 2]).get _).toNat : ℤ) = 7
      rw [Counter.toNat_get_ofCalls]
      decide +kernel
    rw [hlabels.trans hsorted, hseven] at hvalue
    rw [hread sample hsample]
    exact congrArg some (Sample.ext hname (hlabels.trans hsorted) hvalue)

end SharedListener.Metrics
