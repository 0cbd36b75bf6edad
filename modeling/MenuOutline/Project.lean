import MenuOutline.Text.Blank
import MenuOutline.Text.CaseFold
import MenuOutline.Text.Pattern
import MenuOutline.Text.Quoted

-- The business that a site is made for, and the forms that its details must have.

namespace MenuOutline

structure Project where
  businessName : Option String
  domain : Option String
  email : Option String
  phone : Option String
deriving DecidableEq, Repr

-- A detail that does not have its form.
inductive ProjectFault where
  | businessName (length : Nat)
  | domain (given : String)
  | email (given : String)
  | phone (given : String)
deriving DecidableEq, Repr

namespace ProjectFault

def field : ProjectFault → String
  | businessName _ => "business_name"
  | domain _ => "domain"
  | email _ => "email"
  | phone _ => "phone"

def reason : ProjectFault → String
  | businessName length => "must be 2 to 100 characters, got " ++ toString length
  | domain given => Text.quoted given ++ " is not a domain like example.com"
  | email given => Text.quoted given ++ " is not an email address"
  | phone given => Text.quoted given ++ " must have 9 to 15 digits"

def message (f : ProjectFault) : String :=
  "project." ++ f.field ++ ": " ++ f.reason

end ProjectFault

namespace Project

def none : Project where
  businessName := .none
  domain := .none
  email := .none
  phone := .none

open Text

def domainLetter : Pattern :=
  .one fun c => (foldCase c).isLower

def domainChar : Pattern :=
  .one fun c => (foldCase c).isAlphanum

def domainSeparator : Pattern :=
  .one fun c => c == '-' || c == '.'

-- Runs of letters and digits with a hyphen or a point between two of them, then a point and at
-- least two letters. Case does not count.
def domainPattern : Pattern :=
  domainChar.plus.seq <| (domainSeparator.seq domainChar.plus).star.seq <|
    (Pattern.char '.').seq <| domainLetter.seq domainLetter.plus

def mailChar : Pattern :=
  .one fun c => !isBlank c && c != '@'

-- A name, an at sign and a host with a point inside.
def emailPattern : Pattern :=
  mailChar.plus.seq <| (Pattern.char '@').seq <| mailChar.plus.seq <|
    (Pattern.char '.').seq mailChar.plus

def isDomain (s : String) : Bool :=
  domainPattern.accepts s.toList

def isEmail (s : String) : Bool :=
  emailPattern.accepts s.toList

def dropPlus : List Char → List Char
  | '+' :: cs => cs
  | cs => cs

-- What may stand between the digits of a phone number.
def isPhoneFiller (c : Char) : Bool :=
  isBlank c || c == '-' || c == '(' || c == ')'

def phoneDigits (s : String) : List Char :=
  (dropPlus (trim s.toList)).filter (!isPhoneFiller ·)

-- Nine to fifteen digits, perhaps behind a plus sign.
def isPhone (s : String) : Bool :=
  let digits := phoneDigits s
  9 ≤ digits.length && digits.length ≤ 15 && digits.all Char.isDigit

def nameLength (s : String) : Nat :=
  (trim s.toList).length

def isBusinessName (s : String) : Bool :=
  2 ≤ nameLength s && nameLength s ≤ 100

-- The fault of a detail that is given and fails its test.
def faultOf (test : String → Bool) (fault : String → ProjectFault) :
    Option String → List ProjectFault
  | some s => if test s then [] else [fault s]
  | .none => []

-- The faults of all details, in the order of the fields.
def faults (p : Project) : List ProjectFault :=
  faultOf isBusinessName (fun s => .businessName (nameLength s)) p.businessName ++
    faultOf isDomain .domain p.domain ++ faultOf isEmail .email p.email ++
    faultOf isPhone .phone p.phone

end Project

end MenuOutline
