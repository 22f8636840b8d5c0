/-
Sample sources and configuration files, by name: modules that compile, one with a type error,
one with a missing brace, a dependency in two versions and a test importing it, a declaration
file, plain JavaScript, and two tsconfig files.
-/
namespace TestTransform
namespace Fixture

def simpleModule : String :=
  "export const greeting: string = \"hello\";\nexport function shout(text: string): string \x7b\n    return text.toUpperCase();\n\x7d\n"

def typedFunction : String :=
  "export function add(a: number, b: number): number \x7b\n    return a + b;\n\x7d\n"

def interfaceProgram : String :=
  "interface Point \x7b\n    x: number;\n    y: number;\n\x7d\nexport const origin = \x7b x: 0, y: 0 \x7d;\n"

def typeErrorAssignment : String := "const x: string = 5;\nexport default x;\n"

def syntaxErrorMissingBrace : String := "export function broken() \x7b\n    return 1;\n"

def dependencyStringValue : String := "export const value = \"a\";\n"

def dependencyNumberValue : String := "export const value = 1;\n"

def testImportingDependency : String :=
  "import \x7b value \x7d from \"./dep\";\nconst checked: string = value;\ndescribe(\"dep\", () => \x7b\n    it(\"is a string\", () => expect(typeof checked).toBe(\"string\"));\n\x7d);\n"

def declarationFile : String := "export declare const value: string;\n"

def plainJavaScript : String := "module.exports = \x7b answer: 42 \x7d;\n"

def tsconfigCommonjs : String :=
  "\x7b\n    // comments are allowed\n    \"compilerOptions\": \x7b\n        \"module\": \"commonjs\",\n        \"target\": \"es2019\",\n        \"strict\": true,\n    \x7d\n\x7d\n"

def tsconfigEsnext : String :=
  "\x7b \"compilerOptions\": \x7b \"module\": \"esnext\", \"target\": \"es2020\" \x7d \x7d"

/-- The sample of a name. -/
def text? (name : String) : Option String :=
  match name with
  | "simple_module" => some simpleModule
  | "typed_function" => some typedFunction
  | "interface_program" => some interfaceProgram
  | "type_error_assignment" => some typeErrorAssignment
  | "syntax_error_missing_brace" => some syntaxErrorMissingBrace
  | "dependency_string_value" => some dependencyStringValue
  | "dependency_number_value" => some dependencyNumberValue
  | "test_importing_dependency" => some testImportingDependency
  | "declaration_file" => some declarationFile
  | "plain_javascript" => some plainJavaScript
  | "tsconfig_commonjs" => some tsconfigCommonjs
  | "tsconfig_esnext" => some tsconfigEsnext
  | _ => none

end Fixture
end TestTransform
