import InfraObserver.State.Definition

/-!
# Limits on messages

The validator bounds the size of a message and the shape of its maps. Lengths are
counted in bytes.
-/

namespace InfraObserver

/-- `Limits`. -/
structure Limits where
  maxMessageBytes : ℤ
  maxLabels : ℤ
  maxMetadata : ℤ
  maxKeyLen : ℤ
  maxValueLen : ℤ
  maxMetricLen : ℤ
  maxFutureSkew : Duration
  deriving DecidableEq

/-- `DefaultLimits`. -/
def Limits.default : Limits where
  maxMessageBytes := 65536
  maxLabels := 16
  maxMetadata := 32
  maxKeyLen := 64
  maxValueLen := 1024
  maxMetricLen := 128
  maxFutureSkew := .fiveMinutes

/-- The characters `[A-Za-z0-9_]`. -/
def isWord (char : Char) : Bool :=
  char.isAlphanum || char = '_'

/-- `metricPattern`, the expression `^[A-Za-z][A-Za-z0-9_]*(\.[A-Za-z0-9_]+)*$`: words
with full stops between them, of which the first begins with a letter. -/
def metricPattern (metric : String) : Bool :=
  (metric.toList.head?.any Char.isAlpha) &&
    (metric.toList.splitOn '.').all fun part => !part.isEmpty && part.all isWord

variable [Platform] {mapName name value : String} {entries : StringMap String} {most : ℤ}
variable {limits : Limits}

end InfraObserver
