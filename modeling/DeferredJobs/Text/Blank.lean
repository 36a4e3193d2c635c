/-!
# White space, and texts cut at it

Texts are lists of characters here. `isBlank` is the property White_Space, twenty-five code points.
`trim` takes the blanks off both ends, `split` cuts at every separator, and `words` are the pieces
between runs of blanks.
-/

namespace DeferredJobs.Text

/-- The code points of the property White_Space. -/
def isBlank (c : Char) : Bool :=
  let n := c.toNat
  (9 ≤ n && n ≤ 13) || n == 0x20 || n == 0x85 || n == 0xA0 || n == 0x1680 ||
    (0x2000 ≤ n && n ≤ 0x200A) || n == 0x2028 || n == 0x2029 || n == 0x202F ||
    n == 0x205F || n == 0x3000

def trimStart (text : List Char) : List Char :=
  text.dropWhile isBlank

def trimEnd (text : List Char) : List Char :=
  (text.reverse.dropWhile isBlank).reverse

def trim (text : List Char) : List Char :=
  trimEnd (trimStart text)

/-- The pieces around the separators: one more than there are separators, so never none. -/
def split (isSeparator : Char → Bool) : List Char → List (List Char)
  | [] => [[]]
  | c :: rest =>
    if isSeparator c then [] :: split isSeparator rest
    else (split isSeparator rest).modifyHead (c :: ·)

/-- The non-empty pieces between blanks. -/
def words (text : List Char) : List (List Char) :=
  (split isBlank text).filter (!·.isEmpty)

end DeferredJobs.Text
