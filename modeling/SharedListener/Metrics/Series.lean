import Std.Data.ExtTreeMap

/-!
# Series of numbers under labels

A series keeps one number for every collection of labels that was ever touched.
The order in which labels are given does not matter: a collection is kept as a
sorted list, so equal collections are one key.

Numbers are machine words, of which sums wrap around.
-/

namespace SharedListener.Metrics

/-- A name and a value that tell apart the numbers of one series. -/
abbrev Label := String × String

/-- Labels are ordered by name, and by value where the names are the same. -/
instance : Ord Label := lexOrd

/-- Labels in increasing order. -/
abbrev LabelList := List Label

/-- Lists of labels are compared transitively, which every map over them asks for. -/
instance : Std.TransCmp (compare : LabelList → LabelList → Ordering) := inferInstance

/-- The labels in increasing order, each as often as it was given. -/
def sortLabels (labels : List Label) : LabelList :=
  labels.mergeSort fun a b => (compare a b).isLE

/-- Numbers of one kind by their labels. -/
abbrev Series (number : Type) := Std.ExtTreeMap LabelList number

namespace Series

variable {number : Type} [Add number] [OfNat number 0]

/-- The number under some labels, which is zero if they were never touched. -/
def get (series : Series number) (labels : List Label) : number :=
  series.getD (sortLabels labels) 0

/-- Adds to the number under some labels. -/
def add (series : Series number) (labels : List Label) (amount : number) : Series number :=
  series.insert (sortLabels labels) (series.get labels + amount)

/-- Adds one to the number under some labels. -/
def increment [OfNat number 1] (series : Series number) (labels : List Label) : Series number :=
  series.add labels 1

end Series

/-- An order in which the entries of a series may come.  A series has no order of its own that
anyone could rely on, and each series of a gateway may have another one. -/
structure Arrangement where
  /-- The entries of the series called `name`. -/
  arrange {number : Type} (name : String) (entries : List (LabelList × number)) :
    List (LabelList × number)
  perm {number : Type} (name : String) (entries : List (LabelList × number)) :
    (arrange name entries).Perm entries

/-- Entries with smaller labels come first. -/
def Arrangement.byLabels : Arrangement where
  arrange _ entries := entries
  perm _ entries := List.Perm.refl entries

/-! ### The text of a series -/

/-- The text with `replacement` in every place where `c` was. -/
def replace (c : Char) (replacement text : List Char) : List Char :=
  text.flatMap fun other => if other = c then replacement else [other]

/-- A label value with backslashes, double quotes and line feeds escaped.  The backslashes come
first, since escapes are written with a backslash themselves. -/
def escape (value : List Char) : List Char :=
  let slashes := replace '\\' ['\\', '\\'] value
  let quotes := replace '"' ['\\', '"'] slashes
  replace '\n' ['\\', 'n'] quotes

/-- One label. -/
def labelText (label : Label) : List Char :=
  label.1.toList ++ '=' :: '"' :: (escape label.2.toList ++ ['"'])

/-- Labels with commas between them. -/
def labelsText (labels : LabelList) : List Char :=
  [','].intercalate (labels.map labelText)

/-- The line that gives one number of a series.  A label name is written as it is. -/
def sampleLine (name : String) (labels : LabelList) (number : String) : List Char :=
  name.toList ++ '\x7b' :: (labelsText labels ++ '\x7d' :: ' ' :: number.toList)

/-- The lines of a series: its type, and its samples. -/
def Series.block {number : Type} (arrangement : Arrangement) (name type : String)
    (numberText : number → String) (series : Series number) : List String :=
  ("# TYPE " ++ name ++ " " ++ type) ::
    (arrangement.arrange name series.toList).map fun (labels, number) =>
      String.ofList (sampleLine name labels (numberText number))

end SharedListener.Metrics
