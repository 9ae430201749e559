/-!
# Text exposition of metrics

Metrics are shown as lines of text: for each family its help, its type and, if it has one, its
unit, then one line per series. Counters end in `_total` and help texts in a full stop. A counter
with labels has a line for each combination of labels that was counted, even if the family has
none yet. Histograms show how many observations were at most each bound, and their number.
-/

namespace WafControl.Metrics

/-- A bound of a histogram, with the text that names it. -/
structure Bound where
  label : String
  /-- The bound in milliseconds. -/
  millis : Nat
  deriving DecidableEq, Repr

/-- A family of metrics under one name. -/
inductive Family where
  /-- Counts under their labels. -/
  | counter (name help : String) (series : List (List (String × String) × Nat))
  | gauge (name help : String) (value : Nat)
  /-- Observed milliseconds, shown in the unit under some bounds. -/
  | histogram (name unit help : String) (bounds : List Bound) (observed : List Nat)
  deriving DecidableEq, Repr

def label (l : String × String) : String := l.1 ++ "=\"" ++ l.2 ++ "\""

/-- Labels in braces; none for no labels. -/
def labels : List (String × String) → String
  | [] => ""
  | ls => "\x7b" ++ ",".intercalate (ls.map label) ++ "\x7d"

def line (name : String) (ls : List (String × String)) (value : Nat) : String :=
  name ++ labels ls ++ " " ++ toString value

def heading (name kind help : String) : List String :=
  ["# HELP " ++ name ++ " " ++ help ++ ".", "# TYPE " ++ name ++ " " ++ kind]

namespace Family

def lines : Family → List String
  | counter name help series =>
    heading name "counter" help ++ series.map fun s => line (name ++ "_total") s.1 s.2
  | gauge name help value => heading name "gauge" help ++ [line name [] value]
  | histogram name unit help bounds observed =>
    let fullName := name ++ "_" ++ unit
    heading fullName "histogram" help ++ ["# UNIT " ++ fullName ++ " " ++ unit] ++
      bounds.map (fun b =>
        line (fullName ++ "_bucket") [("le", b.label)]
          (observed.countP fun ms => decide (ms ≤ b.millis))) ++
      [line (fullName ++ "_bucket") [("le", "+Inf")] observed.length,
        line (fullName ++ "_count") [] observed.length]

end Family

/-- The lines of all families, and the mark of their end. -/
def exposition (families : List Family) : List String :=
  families.flatMap Family.lines ++ ["# EOF"]

end WafControl.Metrics
