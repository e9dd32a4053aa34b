/-
The edition and the version that an image reference names.
-/
import AckoProofs.Admission.Validate

namespace Acko

def containsText (s sub : String) : Bool := s.toList.tails.any (sub.toList.isPrefixOf ·)

def toLower (s : String) : String := String.ofList (s.toList.map Char.toLower)

def hasPrefix (s pre : String) : Bool := pre.toList.isPrefixOf s.toList

variable (image : String)

/-- The part of an image reference after its registry and path. -/
def lastSegment : List Char := (image.toList.reverse.takeWhile (· ≠ '/')).reverse

/-- `imageTag`: what follows the last colon after the last slash, without a digest. -/
def imageTag : String :=
  let segment := lastSegment image
  -- the digest starts at the last '@', which counts only after the last '/'
  let named := if '@' ∈ segment then (segment.reverse.dropWhile (· ≠ '@')).tail.reverse else segment
  if ':' ∈ named then String.ofList (named.reverse.takeWhile (· ≠ ':')).reverse else ""

/-- The major version that the tag states. -/
def parseMajorVersion : Option Int :=
  let tag := imageTag image
  if tag = "" then none else
  let version := match ["ce-", "ee-", "ent-"].find? (hasPrefix tag) with
    | some edition => trimPrefix tag edition
    | none => tag
  atoi (trimPrefix (String.ofList (version.toList.takeWhile (· ≠ '.'))) "v")

def isEnterpriseTag : Bool :=
  hasPrefix (toLower (imageTag image)) "ee-" || hasPrefix (toLower (imageTag image)) "ent-"

inductive EnterpriseImage
  | repository | edition
  deriving DecidableEq

/-- The test that every check of an image makes; an empty reference passes. -/
def enterpriseImage : Option EnterpriseImage :=
  if image = "" then none
  else if containsText (toLower image) "aerospike-server-enterprise" then some .repository
  else if containsText (toLower image) "enterprise" || isEnterpriseTag image then some .edition
  else none

example : imageTag "localhost:5000/aerospike:ce-8.1@sha256:ab" = "ce-8.1" ∧ imageTag "localhost:5000/aerospike" = "" ∧
    parseMajorVersion "aerospike:ce-8.1.1.1" = some 8 ∧ enterpriseImage "aerospike:EE-8.0" = some .edition := by decide

end Acko
