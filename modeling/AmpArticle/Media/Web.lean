import AmpArticle.Url.Target

/-!
Downloads answered from a table: what lies at an address, or how asking for it fails. Redirects are followed up to a
limit, or not at all.
-/

namespace AmpArticle.Media

/-- what asking for an address brings -/
inductive Reply where
  | response (status : Nat) (body : List UInt8) (location : Option String)
  | failure (text : String)
  deriving Inhabited

/-- the replies under the addresses they belong to -/
abbrev Web := List (String × Reply)

/-- the reply for an address; what is not listed refuses to answer -/
def Web.reply (web : Web) (address : String) : Reply := (lookup? address web).getD (.failure "refused")

/-- how a download ends: with a response, whatever its status, with a failure on the way, or not at all because nothing
can be asked -/
inductive Download where
  | response (status : Nat) (body : List UInt8)
  | failed (text : String)
  | unusable
  deriving Inhabited

/-- a client for downloads: for an address the addresses that are asked in turn, and how that ends -/
structure Client where
  get : String → List String × Download
  deriving Inhabited

/-- whether a status with a new location asks to go there -/
def isRedirect (status : Nat) : Bool := [301, 302, 303, 307, 308].contains status

/-- the largest number of redirects that are followed -/
def maxRedirects : Nat := 20

/-- a download from an address with at most `fuel` redirects, and the addresses asked in turn -/
def Web.follow (web : Web) (follows : Bool) : Nat → Url.Target → List String × Download
  | fuel, target =>
    let address := target.render
    match web.reply address with
    | .failure text => ([address], .failed text)
    | .response status body location =>
      match (if isRedirect status then location else none) with
      | none => ([address], .response status body)
      | some l =>
        match target.redirect? l with
        | none => ([address], .failed "Invalid URL in location header")
        | some next =>
          if follows then
            match fuel with
            | 0 => ([address], .failed "Exceeded maximum allowed redirects.")
            | fuel + 1 =>
              let (asked, result) := web.follow follows fuel next
              (address :: asked, result)
          else ([address], .response status body)

/-- a download of an address as an author wrote it -/
def Web.get (web : Web) (follows : Bool) (url : String) : List String × Download :=
  match Url.Target.ofText? url with
  | none => ([], .unusable)
  | some target => web.follow follows maxRedirects target.rooted

/-- a client that asks a table -/
def Web.client (web : Web) (follows : Bool) : Client := ⟨web.get follows⟩

end AmpArticle.Media
