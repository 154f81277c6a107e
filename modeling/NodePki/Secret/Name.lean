import NodePki.Error

/-!
# Secret names and labels

The names under which secrets are stored, made from the names of pods, certificate types and
clusters, and the labels that say what a secret is for:

* `sanitize`: any text as a name of small letters, digits, points and single dashes;
* `checkType`: the certificate types that can be the value of a label.
-/

namespace NodePki.SecretName

/-- The longest name of an object. -/
def maxLength : Nat := 253

/-- A character that can stand in a name: letters in lower case, digits, points and dashes as they
are, and a dash for anything else. -/
def cleanChar (c : Char) : Char :=
  let c := c.toLower
  if c.isLower || c.isDigit || c == '.' || c == '-' then c else '-'

/-- Leaves one dash of each run; `afterDash` says that the last character was one. -/
def collapse (afterDash : Bool) : List Char → List Char
  | [] => []
  | c :: cs =>
    if c = '-' then
      if afterDash then collapse true cs else c :: collapse true cs
    else c :: collapse false cs

/-- Characters that cannot stand at either end of a name. -/
def isEdge (c : Char) : Bool := c == '-' || c == '.'

/-- Drops dashes and points from both ends. -/
def trimEdges (cs : List Char) : List Char :=
  ((cs.dropWhile isEdge).reverse.dropWhile isEdge).reverse

/-- The name that a list of characters is turned into. -/
def sanitizeChars (cs : List Char) : List Char :=
  trimEdges ((collapse false (cs.map cleanChar)).take maxLength)

/-- A text as the name of an object. -/
def sanitize (text : String) : String := String.ofList (sanitizeChars text.toList)

/-- The name of the secret of a node: its pod, the certificate type and `certs`. -/
def node (podName certificateType : String) : String :=
  sanitize (podName ++ "-" ++ certificateType ++ "-certs")

/-- The name of the secret of a cluster's authority. -/
def authority (clusterName : String) : String := sanitize (clusterName ++ "-ca")

/-- Letters and digits of ASCII. -/
def isAlphanumeric (c : Char) : Bool := c.isAlphanum

/-- The longest value of a label. -/
def maxLabelValue : Nat := 63

/-- Whether a text can be the value of a label: letters, digits, dashes, underscores and points, at
most `maxLabelValue` of them, with a letter or digit at either end. -/
def isLabelValue (text : String) : Bool :=
  let cs := text.toList
  cs.length ≤ maxLabelValue &&
    cs.head?.any isAlphanumeric && cs.getLast?.any isAlphanumeric &&
    cs.all fun c => isAlphanumeric c || c == '-' || c == '_' || c == '.'

/-- Refuses a certificate type that cannot be the value of a label. -/
def checkType (certificateType : String) : Except Error Unit :=
  if isLabelValue certificateType then .ok ()
  else .error (.invalidIdentity (.certificateType certificateType))

end NodePki.SecretName
