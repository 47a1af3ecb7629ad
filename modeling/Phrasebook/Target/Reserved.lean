/-!
Words that emitted source may not use as names.  Property names keep clear of the reserved words of
ECMAScript 3, because runtimes of that age refuse them after a point and in object literals; function
names keep clear of the reserved words of strict ECMAScript 2015.
-/

namespace Phrasebook.Target

/-- Keywords, future reserved words and literals of ECMAScript 3. -/
def reservedProperties : List String := [
    "break", "continue", "delete", "else", "for", "function", "if", "in", "new", "return", "this",
    "typeof", "var", "void", "while", "with", "case", "catch", "default", "do", "finally",
    "instanceof", "switch", "throw", "try", "abstract", "boolean", "byte", "char", "class",
    "const", "debugger", "double", "enum", "export", "extends", "final", "float", "goto",
    "implements", "import", "int", "interface", "long", "native", "package", "private",
    "protected", "public", "short", "static", "super", "synchronized", "throws", "transient",
    "volatile", "null", "true", "false"]

/-- Keywords, future reserved words and literals of strict ECMAScript 2015. -/
def reservedFunctions : List String := [
    "break", "case", "catch", "class", "const", "continue", "debugger", "default", "delete", "do",
    "else", "export", "extends", "finally", "for", "function", "if", "import", "in", "instanceof",
    "new", "return", "super", "switch", "this", "throw", "try", "typeof", "var", "void", "while",
    "with", "yield", "enum", "await", "implements", "interface", "let", "package", "private",
    "protected", "public", "static", "null", "true", "false"]

end Phrasebook.Target
