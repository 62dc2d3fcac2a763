/-! Stock objects: the objects that a program finds ready in its environment, from built-in functions
    and classes to numbers of enumerations. Each is known by its name, and carries just what checks can
    see of it: how it is written, whether it is shared by all who name it, and its nature. -/

namespace CallGuard

/-- What a stock object is to a check. A callable has a name or none; of a row only whole numbers are
    of interest, and of an array only whether it counts as true; a mapping is empty, as is a source of
    items, which may tell its length or not. -/
inductive Nature
  | plain
  | callable (name : Option String)
  | row (items : List Int)
  | array (truth : Bool)
  | number (n : Int)
  | text (s : String)
  | mapping
  | source (sized : Bool)
  deriving DecidableEq

/-- An object of the environment. A shared one is the same object for all who name it, one that is
    equal by its content is equal to others of its name, and a fickle one cannot be a key. The home of
    its type stands before the name of the type where a message gives it in full. -/
structure Stock where
  name : String
  typeName : String
  written : String
  nature : Nature
  home : String := ""
  shared : Bool := false
  byContent : Bool := false
  fickle : Bool := false
  deriving DecidableEq

namespace Stock

/-- The full name of an object's type. -/
def fullTypeName (s : Stock) : String := s.home ++ s.typeName

/-- A built-in function. -/
def function (name : String) : Stock where
  name
  typeName := "builtin_function_or_method"
  written := "<built-in function " ++ name ++ ">"
  nature := .callable (some name)
  shared := true

/-- A class, by the path under which it is written and its own name. -/
def classNamed (name path own : String) : Stock where
  name := "class " ++ name
  typeName := "type"
  written := "<class '" ++ path ++ "'>"
  nature := .callable (some own)
  shared := true

/-- An object that shows its type only. -/
def bare (name typeName : String) (nature : Nature) : Stock where
  name
  typeName
  written := "<" ++ typeName ++ " object>"
  nature

/-- An object that shows what it holds. -/
def known (name typeName written : String) (nature : Nature) : Stock where
  name
  typeName
  written
  nature

/-- Callables of the environment. -/
def callables : List Stock :=
  [function "len", function "abs",
   classNamed "int" "int" "int", classNamed "list" "list" "list",
   classNamed "NoneType" "NoneType" "NoneType",
   { classNamed "Number" "numbers.Number" "Number" with typeName := "ABCMeta" },
   classNamed "ValueError" "ValueError" "ValueError",
   { classNamed "TypeTag" "TypeTag" "TypeTag" with typeName := "EnumType", written := "<enum 'TypeTag'>" },
   classNamed "UndefinedType" "deodorant.types.UndefinedType" "UndefinedType",
   classNamed "np.float64" "numpy.float64" "float64", classNamed "np.ndarray" "numpy.ndarray" "ndarray",
   known "lambda" "function" "<function <lambda>>" (.callable (some "<lambda>")),
   { known "partial" "partial" "functools.partial(<built-in function len>)" (.callable none) with
     home := "functools." },
   known "bound method" "method" "<bound method>" (.callable (some "method")),
   known "bound builtin" "builtin_function_or_method" "<built-in method append of list object>"
     (.callable (some "append")),
   known "staticmethod" "staticmethod" "<staticmethod(<built-in function len>)>" (.callable (some "len")),
   known "generator function" "function" "<function gen>" (.callable (some "gen")),
   { known "np.ufunc" "ufunc" "<ufunc 'add'>" (.callable (some "add")) with home := "numpy.", shared := true }]

/-- Sequences and arrays of the environment. -/
def rows : List Stock :=
  [known "namedtuple" "NT" "NT(a=1, b=2)" (.row [1, 2]),
   { known "struct_time" "struct_time"
     "time.struct_time(tm_year=1970, tm_mon=1, tm_mday=1, tm_hour=0, tm_min=0, tm_sec=0, tm_wday=3, tm_yday=1, tm_isdst=0)"
     (.row [1970, 1, 1, 0, 0, 0, 3, 1, 0]) with home := "time." },
   { bare "memoryview" "memoryview" (.row [97]) with byContent := true },
   { known "array.array" "array" "array('i', [1])" (.row [1]) with home := "array.", byContent := true, fickle := true },
   { known "np.ma.masked" "MaskedConstant" "masked" (.array false) with shared := true, fickle := true },
   { known "np.matrix" "matrix" "matrix([[1]])" (.array true) with byContent := true, fickle := true },
   { known "np.recarray" "recarray" "rec.array([1])" (.array true) with byContent := true, fickle := true }]

/-- Members of enumerations that are numbers or texts, and empty mappings. -/
def membersAndMappings : List Stock :=
  [{ known "int enum member" "Level" "<Level.LOW: 1>" (.number 1) with shared := true },
   { known "str enum member" "StrTag" "<StrTag.NUMBER: 'Number'>" (.text "Number") with shared := true },
   { known "enum member" "Color" "<Color.RED: 1>" .plain with shared := true },
   { known "mappingproxy" "mappingproxy" "mappingproxy(\x7b\x7d)" .mapping with fickle := true },
   { known "ChainMap" "ChainMap" "ChainMap(\x7b\x7d)" .mapping with fickle := true },
   { known "Counter" "Counter" "Counter()" .mapping with fickle := true },
   { known "OrderedDict" "OrderedDict" "OrderedDict()" .mapping with home := "collections.", fickle := true },
   { known "defaultdict" "defaultdict" "defaultdict(None, \x7b\x7d)" .mapping with
     home := "collections.", fickle := true }]

/-- Objects that are nothing but objects to a check. -/
def plains : List Stock :=
  [{ known "Ellipsis" "ellipsis" "Ellipsis" .plain with shared := true },
   { known "NotImplemented" "NotImplementedType" "NotImplemented" .plain with shared := true },
   bare "object()" "object" .plain,
   known "ValueError()" "ValueError" "ValueError()" .plain,
   bare "classmethod" "classmethod" .plain,
   bare "property" "property" .plain,
   bare "generator" "generator" (.source false),
   bare "list iterator" "list_iterator" (.source false),
   bare "enumerate" "enumerate" (.source false),
   bare "zip" "zip" (.source false),
   bare "map" "map" (.source false),
   { known "slice" "slice" "slice(1, 2, None)" .plain with byContent := true, fickle := true },
   { bare "module" "module" .plain with shared := true },
   { bare "regex" "Pattern" .plain with home := "re.", shared := true },
   { bare "regex match" "Match" .plain with home := "re." },
   { known "date" "date" "datetime.date(2020, 1, 2)" .plain with home := "datetime.", byContent := true },
   { known "timedelta" "timedelta" "datetime.timedelta(days=1)" .plain with home := "datetime.", byContent := true },
   { bare "dict keys" "dict_keys" (.source true) with byContent := true, fickle := true },
   bare "dict values" "dict_values" (.source true),
   { bare "dict items" "dict_items" (.source true) with byContent := true, fickle := true },
   { known "SimpleNamespace" "SimpleNamespace" "namespace()" .plain with
     home := "types.", byContent := true, fickle := true },
   { bare "np.dtype" "Float64DType" .plain with home := "numpy.dtypes.", shared := true },
   { bare "np.random.Generator" "Generator" .plain with home := "numpy.random._generator." },
   { bare "np.void" "void" .plain with home := "numpy." },
   { bare "np.flatiter" "flatiter" .plain with home := "numpy." },
   { bare "np.nditer" "nditer" .plain with home := "numpy." }]

/-- All stock objects. -/
def all : List Stock := callables ++ rows ++ membersAndMappings ++ plains

/-- The stock object with a name. -/
def find? (name : String) : Option Stock := all.find? (·.name == name)

/-- Whether an object is a class. -/
def isClass (s : Stock) : Bool := s.name.startsWith "class "

/-- The name that a class has in messages about it, with its home in front where it tells. -/
def ownName (s : Stock) : String :=
  match s.nature with
  | .callable (some own) => if s.name.startsWith "class np." then "numpy." ++ own else own
  | _ => s.name

/-- The class of tags. -/
def tagClass : String := "class TypeTag"

/-- The items of an object that is a tuple. -/
def tuple? (s : Stock) : Option (List Int) :=
  match s.nature with
  | .row ns => if s.name = "namedtuple" ∨ s.name = "struct_time" then some ns else none
  | _ => none

/-- The text of an object that is not the one of its written form: members of enumerations by their
    class and label, a date by its parts. -/
def shown? (s : Stock) : Option String :=
  match s.name with
  | "int enum member" => some "1"
  | "str enum member" => some "StrTag.NUMBER"
  | "enum member" => some "Color.RED"
  | "date" => some "2020-01-02"
  | "timedelta" => some "1 day, 0:00:00"
  | "ValueError()" => some ""
  | "np.ma.masked" => some "--"
  | "np.matrix" => some "[[1]]"
  | "np.recarray" => some "[1]"
  | "np.dtype" => some "float64"
  | "mappingproxy" => some "\x7b\x7d"
  | _ => none

end Stock
end CallGuard
