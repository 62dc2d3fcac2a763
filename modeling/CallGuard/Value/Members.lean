import CallGuard.Value.Basic

/-! What the environment tells of its own objects: where a callable comes from, its names and its
    documentation, and the members that other values show by name. -/

namespace CallGuard

namespace Value

/-- A value that is the real part of itself, with an imaginary part. -/
def realPart (self imaginary : Value) : List (String × Value) := [("real", self), ("imag", imaginary)]

/-- An integer by its parts as a number of any kind. -/
def integerParts (n : Int) : List (String × Value) :=
  [("numerator", .ofInt n), ("denominator", .ofInt 1)] ++ realPart (.ofInt n) (.ofInt 0)

end Value

namespace Stock

/-- The documentation of the function that tells a length. -/
def lengthDocumentation : String := "Return the number of items in a container."

/-- The documentation of a callable of the environment. -/
def documentation? (s : Stock) : Option String :=
  match s.name with
  | "len" => some lengthDocumentation
  | "staticmethod" => some lengthDocumentation
  | "abs" => some "Return the absolute value of the argument."
  | "bound builtin" => some "Append object to the end of the list."
  | "class list" =>
    some ("Built-in mutable sequence.\n\n"
      ++ "If no argument is given, the constructor creates a new empty list.\n"
      ++ "The argument must be an iterable if specified.")
  | "class int" =>
    some ("int([x]) -> integer\nint(x, base=10) -> integer\n\n"
      ++ "Convert a number or string to an integer, or return 0 if no arguments\n"
      ++ "are given.  If x is a number, return x.__int__().  For floating point\n"
      ++ "numbers, this truncates towards zero.\n\n"
      ++ "If x is not a number or if base is given, then x must be a string,\n"
      ++ "bytes, or bytearray instance representing an integer literal in the\n"
      ++ "given base.  The literal can be preceded by '+' or '-' and be surrounded\n"
      ++ "by whitespace.  The base defaults to 10.  Valid bases are 0 and 2-36.\n"
      ++ "Base 0 means to interpret the base from the string as an integer literal.\n"
      ++ ">>> int('0b100', base=0)\n4")
  | "class ValueError" => some "Inappropriate argument value (of correct type)."
  | "class Number" =>
    some ("All numbers inherit from this class.\n\n    "
      ++ "If you just want to check if an argument x is a number, without\n    "
      ++ "caring what kind, use isinstance(x, Number).\n    ")
  | "class TypeTag" =>
    some ("Coarse runtime type of a value.\n\n    "
      ++ "The classifier returns one of the eight concrete tags. `VOID` is a\n    "
      ++ "wildcard that only appears in signatures: as an argument tag it accepts\n    "
      ++ "any value, as a return tag it accepts any value except NaN.\n    ")
  | "class UndefinedType" =>
    some ("Type of the `Undefined` sentinel.\n\n    "
      ++ "`Undefined` marks a missing value, as opposed to `None` which is a value\n    "
      ++ "deliberately set to nothing. Both are classified as `TypeTag.NULL`, but\n    "
      ++ "checked functions refuse `Undefined` as an argument whatever the\n    signature.\n    ")
  | "partial" =>
    some ("partial(func, *args, **keywords) - new function with partial application\n    "
      ++ "of the given arguments and keywords.\n")
  | _ => none

/-- The module of what is made on the way. -/
def mainModule : String := "__main__"

/-- The module of a callable of the environment, if it names one. -/
def module? (s : Stock) : Option String :=
  match s.name with
  | "lambda" => some mainModule
  | "generator function" => some mainModule
  | "bound method" => some mainModule
  | "class Number" => some "numbers"
  | "class TypeTag" => some "deodorant.types"
  | "class UndefinedType" => some "deodorant.types"
  | "class np.float64" => some "numpy"
  | "class np.ndarray" => some "numpy"
  | "np.ufunc" => some "numpy"
  | "partial" => some "functools"
  | "bound builtin" => none
  | _ => some "builtins"

/-- The name of a callable with the name of what it belongs to in front. -/
def qualifiedName (name : String) (s : Stock) : String :=
  match s.name with
  | "bound builtin" => "list." ++ name
  | _ => name

/-- The metadata of a stock object. A callable without documentation says so. -/
def metadata (s : Stock) : Metadata Value :=
  match s.nature with
  | .callable name =>
    { module := some (s.module?.elim .null .ofString)
      name := name.map .ofString
      qualname := name.map fun n => .ofString (s.qualifiedName n)
      doc := some (s.documentation?.elim .null .ofString) }
  | _ =>
    match s.name with
    | "module" => { Metadata.empty with name := some (.ofString "math") }
    | _ => .empty

/-- The members that a stock object shows by name. -/
def members (s : Stock) : List (String × Value) :=
  match s.name with
  | "int enum member" => [("name", .ofString "LOW"), ("value", .ofInt 1)] ++ Value.integerParts 1
  | "str enum member" => [("name", .ofString "NUMBER"), ("value", .ofString "Number")]
  | "enum member" => [("name", .ofString "RED"), ("value", .ofInt 1)]
  | "namedtuple" => [("a", .ofInt 1), ("b", .ofInt 2)]
  | "date" => [("year", .ofInt 2020), ("month", .ofInt 1), ("day", .ofInt 2)]
  | "slice" => [("start", .ofInt 1), ("stop", .ofInt 2), ("step", .null)]
  | "timedelta" => [("days", .ofInt 1), ("seconds", .ofInt 0), ("microseconds", .ofInt 0)]
  | "struct_time" =>
    List.zip ["tm_year", "tm_mon", "tm_mday", "tm_hour", "tm_min", "tm_sec", "tm_wday", "tm_yday", "tm_isdst"]
      (((s.tuple?).getD []).map .ofInt)
  | "array.array" => [("typecode", .ofString "i"), ("itemsize", .ofInt 4)]
  | "defaultdict" => [("default_factory", .null)]
  | "partial" =>
    [("func", .stock 0 (function "len")), ("args", .tuple []), ("keywords", .mapping 0 .plain [])]
  | "staticmethod" => [("__func__", .stock 0 (function "len")), ("__wrapped__", .stock 0 (function "len"))]
  | "ValueError()" => [("args", .tuple [])]
  | "class TypeTag" => Tag.all.map fun t => (t.label, .tag t)
  | _ => []

end Stock

namespace Value

/-- The extent of a row of values of one format, in one dimension or in none. -/
def extent (lengths : List Nat) : List (String × Value) :=
  [("shape", .tuple (lengths.map fun (n : Nat) => .ofInt n)), ("ndim", .ofInt lengths.length),
    ("size", .ofInt ((lengths.foldl (· * ·) 1 : Nat)))]

/-- A scalar that is a number by its parts. -/
def scalarParts (i : ObjectId) (s : Scalar) : List (String × Value) :=
  match s with
  | .real w _ => realPart (.scalar i s) (.scalar 0 (.real w .zero))
  | .complex w re im => [("real", .scalar 0 (.real w re)), ("imag", .scalar 0 (.real w im))]
  | .integer signed bits _ => realPart (.scalar i s) (.scalar 0 (.integer signed bits 0))
  | .boolean _ => realPart (.scalar i s) (.scalar 0 (.boolean false))
  | _ => []

/-- The members that a value shows by name, besides its metadata. -/
def members : Value → List (String × Value)
  | .tag t => [("name", .ofString t.label), ("value", .ofString t.text)]
  | .kind k => [("name", .ofString k.label), ("value", .ofString k.text)]
  | .boolean b => integerParts (if b then 1 else 0)
  | .integer i n =>
    [("numerator", .integer i n), ("denominator", .ofInt 1)] ++ realPart (.integer i n) (.ofInt 0)
  | .real i r => realPart (.real i r) (.real 0 .zero)
  | .complex _ re im => [("real", .real 0 re), ("imag", .real 0 im)]
  | .decimal i d => realPart (.decimal i d) (.decimal 0 (.finite false 0 0))
  | .fraction i q =>
    [("numerator", .ofInt q.num), ("denominator", .ofInt q.den)] ++ realPart (.fraction i q) (.ofInt 0)
  | .range _ start stop step => [("start", .ofInt start), ("stop", .ofInt stop), ("step", .ofInt step)]
  | .sequence _ .deque _ => [("maxlen", .null)]
  | .sequence _ .wrapped vs => [("data", .list vs)]
  | .mapping _ .wrapped es => [("data", .mapping 0 .plain es)]
  | .wrappedText _ s => [("data", .ofString s)]
  | .scalar i s => scalarParts i s ++ extent []
  | .array _ g => extent [g.items.length]
  | .stock _ s => s.members
  | _ => []

end Value
end CallGuard
