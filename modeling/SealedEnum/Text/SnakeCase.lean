import SealedEnum.Unicode.Case
import SealedEnum.Unicode.Cluster

namespace SealedEnum.Text

open SealedEnum.Unicode

/-! Names in snake case: words in lower case between underscores. -/

abbrev Cluster := List Char

def hasCase (cluster : Cluster) : Bool :=
  upperText cluster != lowerText cluster

def isUpper (cluster : Cluster) : Bool :=
  hasCase cluster && cluster == upperText cluster

def isLower (cluster : Cluster) : Bool :=
  hasCase cluster && cluster == lowerText cluster

def isDigit (cluster : Cluster) : Bool :=
  cluster.all fun c => '0' ≤ c && c ≤ '9'

def isWordSeparator (cluster : Cluster) : Bool :=
  cluster == ['_'] || cluster == ['-'] || cluster == [' ']

/-- Words end where case or digits change; the last capital before a small letter starts a word. -/
def wordEndsAfter (cluster : Cluster) : List Cluster → Bool
  | [] => false
  | next :: rest =>
      (isLower cluster && isUpper next)
        || (isLower cluster && isDigit next)
        || (isUpper cluster && isDigit next)
        || (isDigit cluster && isLower next)
        || (isDigit cluster && isUpper next)
        || (isUpper cluster && isUpper next &&
          match rest with
          | [] => false
          | following :: _ => isLower following)

/-- Separators are dropped, and the words between two of them may be empty. -/
def wordsAfter (word : List Char) : List Cluster → List (List Char)
  | [] => [word]
  | cluster :: rest =>
      if isWordSeparator cluster then word :: wordsAfter [] rest
      else if wordEndsAfter cluster rest then (word ++ cluster) :: wordsAfter [] rest
      else wordsAfter (word ++ cluster) rest

def words (name : List Char) : List (List Char) :=
  wordsAfter [] (clusters name)

def snakeCase (name : String) : String :=
  String.ofList (List.intercalate ['_'] ((words name.toList).map lowerText))

end SealedEnum.Text
