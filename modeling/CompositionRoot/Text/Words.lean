import CompositionRoot.Text.Casing
import CompositionRoot.Text.Cluster

/-! Words of a name. Separators between words are dropped, and a word also ends where the case
changes or digits begin or end. -/
namespace CompositionRoot.Text

/-- A hyphen, an underscore or a space, with no mark on it. -/
def isSeparator (cluster : Cluster) : Bool :=
  cluster == ['-'] || cluster == ['_'] || cluster == [' ']

/-- Whether a cluster is in upper case and not in lower case too. -/
def isUpper (cluster : Cluster) : Bool :=
  uppercase cluster != lowercase cluster && cluster == uppercase cluster

def isLower (cluster : Cluster) : Bool :=
  uppercase cluster != lowercase cluster && cluster == lowercase cluster

def isDigit (cluster : Cluster) : Bool :=
  cluster.all Char.isDigit

/-- Whether a word ends between the clusters `c` and `d`, which `next` follows. The last capital of
several belongs to the lower-case letter after it. -/
def endsWord (c d : Cluster) (next : Option Cluster) : Bool :=
  (isLower c && isUpper d) || (isUpper c && isDigit d) || (isDigit c && isUpper d) ||
    (isDigit c && isLower d) || (isLower c && isDigit d) ||
    (isUpper c && isUpper d && next.any isLower)

/-- The words of clusters none of which is a separator. -/
def humps : List Cluster → List (List Cluster)
  | [] => []
  | c :: rest =>
    match humps rest with
    | [] => [[c]]
    | word :: words =>
      if rest.head?.any (endsWord c · (rest.drop 1).head?) then [c] :: word :: words
      else (c :: word) :: words

def words (text : List Char) : List (List Char) :=
  (((clusters text).splitOnP isSeparator).flatMap humps).map List.flatten

/-- A text in lower case without its separators. -/
def flatCase (text : List Char) : List Char :=
  (words text).flatMap lowercase

end CompositionRoot.Text
