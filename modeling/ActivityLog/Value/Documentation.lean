/-!
# What types say of themselves

Each type of plain data comes with a text that describes it. `Documentation.ofType?` finds it under the type's name.
-/

namespace ActivityLog.Documentation

/-- The texts by the names of types. -/
def texts : List (String × String) := [
  ("str",
    "str(object='') -> str\nstr(bytes_or_buffer[, encoding[, errors]]) -> str\n\nCreate a new string " ++
      "object from the given object. If encoding or\nerrors is specified, then the object must expose a " ++
      "data buffer\nthat will be decoded using the given encoding and error handler.\nOtherwise, returns " ++
      "the result of object.__str__() (if defined)\nor repr(object).\nencoding defaults to " ++
      "sys.getdefaultencoding().\nerrors defaults to 'strict'."),
  ("int",
    "int([x]) -> integer\nint(x, base=10) -> integer\n\nConvert a number or string to an integer, or " ++
      "return 0 if no arguments\nare given.  If x is a number, return x.__int__().  For floating point\n" ++
      "numbers, this truncates towards zero.\n\nIf x is not a number or if base is given, then x must be a " ++
      "string,\nbytes, or bytearray instance representing an integer literal in the\ngiven base.  The " ++
      "literal can be preceded by '+' or '-' and be surrounded\nby whitespace.  The base defaults to 10.  " ++
      "Valid bases are 0 and 2-36.\nBase 0 means to interpret the base from the string as an integer " ++
      "literal.\n>>> int('0b100', base=0)\n4"),
  ("bool",
    "bool(x) -> bool\n\nReturns True when the argument x is true, False otherwise.\nThe builtins True " ++
      "and False are the only two instances of the class bool.\nThe class bool is a subclass of the class " ++
      "int, and cannot be subclassed."),
  ("float",
    "Convert a string or number to a floating point number, if possible."),
  ("list",
    "Built-in mutable sequence.\n\nIf no argument is given, the constructor creates a new empty list.\n" ++
      "The argument must be an iterable if specified."),
  ("bytes",
    "bytes(iterable_of_ints) -> bytes\nbytes(string, encoding[, errors]) -> bytes\n" ++
      "bytes(bytes_or_buffer) -> immutable copy of bytes_or_buffer\nbytes(int) -> bytes object of size " ++
      "given by the parameter initialized with null bytes\nbytes() -> empty bytes object\n\nConstruct an " ++
      "immutable array of bytes from:\n  - an iterable yielding integers in range(256)\n  - a text string " ++
      "encoded using the specified encoding\n  - any object implementing the buffer API.\n  - an integer"),
  ("tuple",
    "Built-in immutable sequence.\n\nIf no argument is given, the constructor returns an empty tuple.\n" ++
      "If iterable is specified the tuple is initialized from iterable's items.\n\nIf the argument is a " ++
      "tuple, the return value is the same object."),
  ("object",
    "The base class of the class hierarchy.\n\nWhen called, it accepts no arguments and returns a new featureless\n" ++
      "instance that has no instance attributes and cannot be given any.\n"),
  ("SimpleNamespace",
    "A simple attribute-based namespace.\n\nSimpleNamespace(**kwargs)"),
  ("dict",
    "dict() -> new empty dictionary\ndict(mapping) -> new dictionary initialized from a mapping " ++
      "object's\n    (key, value) pairs\ndict(iterable) -> new dictionary initialized as if via:\n    d = " ++
      "\x7b\x7d\n    for k, v in iterable:\n        d[k] = v\ndict(**kwargs) -> new dictionary initialized " ++
      "with the name=value pairs\n    in the keyword argument list.  For example:  dict(one=1, two=2)")]

/-- What a type says of itself, if it does. -/
def ofType? (type : String) : Option String := texts.lookup type

end ActivityLog.Documentation
