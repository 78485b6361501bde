import SealedEnum.Text.Lines
import SealedEnum.Unicode.Alphanumeric

namespace SealedEnum.VariableFile

open SealedEnum.Text SealedEnum.Unicode

/-! Files whose lines assign variables: a name, an equals sign and a value with quotes, escapes and
the values of other variables. -/

/-- A value is known only once the variables it mentions are. -/
inductive Piece where
  | literal (c : Char)
  | variableNamed (name : String)
  deriving DecidableEq

structure Assignment where
  name : String
  value : List Piece
  deriving DecidableEq

inductive Mode where
  | plain
  | literal
  | escaped
  | name
  | braced
  | ended
  | comment
  deriving DecidableEq

structure ValueState where
  mode : Mode
  inQuotes : Bool
  name : List Char
  output : List Piece

namespace ValueState

def initial : ValueState :=
  ⟨.plain, false, [], []⟩

def push (state : ValueState) (c : Char) : ValueState :=
  { state with output := state.output ++ [.literal c] }

/-- Ends the name of a variable and puts the variable in place. -/
def endName (state : ValueState) : ValueState :=
  { state with
    mode := .plain
    name := []
    output := state.output ++ [.variableNamed (String.ofList state.name)] }

def isEscapable (c : Char) : Bool :=
  c == '\\' || c == '\'' || c == '"' || c == '$' || c == ' '

def stepPlain (state : ValueState) (c : Char) : ValueState :=
  if c = '$' then { state with mode := .name }
  else if state.inQuotes then
    if c = '"' then { state with inQuotes := false }
    else if c = '\\' then { state with mode := .escaped }
    else state.push c
  else if c = '\'' then { state with mode := .literal }
  else if c = '"' then { state with inQuotes := true }
  else if c = '\\' then { state with mode := .escaped }
  else if c = ' ' || c = '\t' then { state with mode := .ended }
  else state.push c

/-- The character that ends a variable's name is kept, unless it starts another variable. -/
def stepName (state : ValueState) (c : Char) : ValueState :=
  if isAlphanumeric c then { state with name := state.name ++ [c] }
  else if c = '{' && state.name.isEmpty then { state with mode := .braced }
  else if c = '$' then { state.endName with mode := .name }
  else state.endName.push c

def step (state : ValueState) (c : Char) : Option ValueState :=
  match state.mode with
  | .comment => some state
  | .ended =>
      if c = ' ' || c = '\t' then some state
      else if c = '#' then some { state with mode := .comment }
      else none
  | .escaped =>
      if isEscapable c then some { state.push c with mode := .plain }
      else if c = 'n' then some { state.push '\n' with mode := .plain }
      else none
  | .literal => if c = '\'' then some { state with mode := .plain } else some (state.push c)
  | .name => some (state.stepName c)
  | .braced =>
      if c = '}' then some state.endName
      else some { state with name := state.name ++ [c] }
  | .plain => some (state.stepPlain c)

def run : ValueState → List Char → Option ValueState
  | state, [] => some state
  | state, c :: rest => (state.step c).bind fun next => next.run rest

/-- Open quotes and braces are errors; a variable's name may end with the line. -/
def finish (state : ValueState) : Option (List Piece) :=
  match state.mode with
  | .braced => none
  | .literal => none
  | .name => if state.inQuotes then none else some state.endName.output
  | _ => if state.inQuotes then none else some state.output

end ValueState

def parseValue (text : List Char) : Option (List Piece) :=
  (ValueState.initial.run text).bind ValueState.finish

def isLetter (c : Char) : Bool :=
  ('a' ≤ c && c ≤ 'z') || ('A' ≤ c && c ≤ 'Z')

def isNameStart (c : Char) : Bool :=
  isLetter c || c == '_'

def isNamePart (c : Char) : Bool :=
  isLetter c || ('0' ≤ c && c ≤ '9') || c == '_' || c == '.'

def parseName (text : List Char) : Option (List Char × List Char) :=
  match text with
  | c :: _ =>
      if isNameStart c then
        some (text.takeWhile isNamePart, trimStart (text.dropWhile isNamePart))
      else none
  | [] => none

/-- The name a line assigns to and the text behind its equals sign. The word `export` may come
first, and is itself a name where an equals sign follows it. -/
def parseTarget (text : List Char) : Option (List Char × List Char) :=
  match parseName text with
  | some (name, '=' :: rest) => some (name, trimStart rest)
  | some (['e', 'x', 'p', 'o', 'r', 't'], rest) =>
      match parseName rest with
      | some (name, '=' :: rest) => some (name, trimStart rest)
      | _ => none
  | _ => none

/-- What a line assigns: nothing if it is blank or a comment. The outer option is `none` for a
malformed line. -/
def parseLine (line : List Char) : Option (Option Assignment) :=
  match trimStart (trimEnd line) with
  | [] => some none
  | '#' :: _ => some none
  | text =>
      match parseTarget text with
      | none => none
      | some (name, []) => some (some ⟨String.ofList name, []⟩)
      | some (name, '#' :: _) => some (some ⟨String.ofList name, []⟩)
      | some (name, value) =>
          (parseValue value).map fun value => some ⟨String.ofList name, value⟩

def Piece.variable? : Piece → Option String
  | .literal _ => none
  | .variableNamed name => some name

/-- The text of a piece, where variables that are not set have the values of earlier lines, the last
one first. -/
def Piece.text (lookup : String → Option String) (earlier : List (String × String)) :
    Piece → List Char
  | .literal c => [c]
  | .variableNamed name => ((lookup name <|> earlier.lookup name).getD "").toList

namespace Assignment

def mentions (assignment : Assignment) : List String :=
  assignment.value.filterMap Piece.variable?

def text (lookup : String → Option String) (earlier : List (String × String))
    (assignment : Assignment) : String :=
  String.ofList (assignment.value.flatMap (Piece.text lookup earlier))

end Assignment

/-- The lines of a file, each as text unless its bytes are none. -/
def lines (content : ByteArray) : List (Option String) :=
  let rec split (line : List UInt8) : List UInt8 → List (List UInt8)
    | [] => if line.isEmpty then [] else [line.reverse]
    | byte :: rest =>
        if byte = 10 then line.reverse :: split [] rest else split (byte :: line) rest
  (split [] content.toList).map fun bytes => String.fromUTF8? ⟨bytes.toArray⟩

end SealedEnum.VariableFile
