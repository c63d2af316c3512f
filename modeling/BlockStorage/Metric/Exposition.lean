import BlockStorage.Metric

/-!
# The exposition of metrics

The text in which a scraper reads the metrics: for each metric its help and its
type, then one line for each sample. Labels are in the order of their names, and
a histogram's buckets count everything up to their bound.
-/

namespace BlockStorage.Exposition

def contentType : String := "text/plain; version=1.0.0; charset=utf-8"

/-- Cuts zeros and points off the end. -/
def trimZeros (s : String) : String :=
  String.ofList ((s.toList.reverse.dropWhile fun c => c = '0' || c = '.').reverse)

/-- A value. A positive one with more than six digits before its point is written with an
exponent. -/
def number (x : Float) : String :=
  if x.isNaN then "NaN"
  else if x.isInf then (if 0.0 < x then "+Inf" else "-Inf")
  else
    let text := Decimal.text x
    let whole := text.toList.takeWhile (· ≠ '.')
    if 0.0 < x ∧ text.toList.contains '.' ∧ 6 < whole.length then
      let digits := String.ofList (text.toList.filter (· ≠ '.'))
      let mantissa := match digits.toList with
        | d :: ds => String.ofList (d :: '.' :: ds)
        | [] => digits
      trimZeros mantissa ++ "e+0" ++ toString (whole.length - 1)
    else text

/-- A label value: backslash, newline and double quote are escaped. -/
def escape (s : String) : String :=
  String.ofList (s.toList.flatMap fun c =>
    if c = '\\' then ['\\', '\\']
    else if c = '\n' then ['\\', 'n']
    else if c = '"' then ['\\', '"']
    else [c])

/-- `name="value"` pairs in the order of their names. -/
def labelText (labels : List (String × String)) : String :=
  let sorted := labels.mergeSort fun a b => a.1 ≤ b.1
  "\x7b" ++ ",".intercalate (sorted.map fun l => l.1 ++ "=\"" ++ escape l.2 ++ "\"") ++ "\x7d"

def line (name : String) (labels : List (String × String)) (x : Float) : String :=
  name ++ labelText labels ++ " " ++ number x

/-- The lines of the buckets, each with everything up to its bound; `below` counts what came
before. -/
def bucketLines (name : String) (labels : List (String × String)) :
    Nat → List Float → List Nat → List String
  | below, b :: bs, n :: ns =>
    line (name ++ "_bucket") (labels ++ [("le", number b)]) (Float.ofNat (below + n))
      :: bucketLines name labels (below + n) bs ns
  | below, [], n :: _ =>
    [line (name ++ "_bucket") (labels ++ [("le", "+Inf")]) (Float.ofNat (below + n))]
  | _, _, [] => []

def kindText : MetricKind → String
  | .counter => "counter"
  | .gauge => "gauge"
  | .histogram _ => "histogram"

/-- The lines of one series. -/
def seriesLines (s : Series) : List String :=
  let f := s.metric.family
  let labels := f.labels.zip s.labels
  match s.reading, f.kind with
  | .value x, _ => [line f.name labels x]
  | .buckets counts sum, .histogram bounds =>
    bucketLines f.name labels 0 bounds counts
      ++ [line (f.name ++ "_count") labels (Meter.total counts),
        line (f.name ++ "_sum") labels sum]
  | .buckets _ _, _ => []

/-- The lines of one metric. -/
def metricLines (meter : Meter) (m : Metric) : List String :=
  let f := m.family
  ["# HELP " ++ f.name ++ " " ++ f.help, "# TYPE " ++ f.name ++ " " ++ kindText f.kind]
    ++ (meter.filter fun s => s.metric = m).flatMap seriesLines

/-- The whole exposition. -/
def lines (meter : Meter) : List String := Metric.all.flatMap (metricLines meter)

end BlockStorage.Exposition
