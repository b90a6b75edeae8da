import GeckScript.Url.Ipv4
import GeckScript.Url.Ipv6
import GeckScript.Url.Percent

/-!
URLs in their parts, and their written form. Texts in a URL are kept as they are written, with
percent-encoding where it applies.
-/

namespace GeckScript

namespace Url

inductive Host where
  /-- No host is written. -/
  | empty
  | domain (name : List Char)
  | ipv4 (address : Nat)
  | ipv6 (pieces : List Nat)
  deriving Repr, DecidableEq

def Host.write : Host → List Char
  | empty => []
  | domain name => name
  | ipv4 address => (Ipv4.write address).toList
  | ipv6 pieces => '[' :: (Ipv6.write pieces).toList ++ [']']

structure UserInfo where
  name : List Char
  password : Option (List Char)
  deriving Repr, DecidableEq

namespace UserInfo

def none : UserInfo :=
  ⟨[], Option.none⟩

def write (u : UserInfo) : List Char :=
  match u.password with
  | some password => u.name ++ ':' :: password ++ ['@']
  | Option.none => if u.name.isEmpty then [] else u.name ++ ['@']

end UserInfo

structure Authority where
  user : UserInfo
  host : Host
  port : Option Nat
  deriving Repr, DecidableEq

def Authority.write (a : Authority) : List Char :=
  let port := match a.port with
    | some port => ':' :: (toString port).toList
    | none => []
  '/' :: '/' :: a.user.write ++ a.host.write ++ port

inductive Path where
  /-- Each segment stands behind a slash. -/
  | segments (parts : List (List Char))
  /-- A path without a structure, as in a mail address. -/
  | verbatim (text : List Char)
  deriving Repr, DecidableEq

def Path.write : Path → List Char
  | segments parts => parts.flatMap ('/' :: ·)
  | verbatim text => text

end Url

structure Url where
  scheme : List Char
  authority : Option Url.Authority
  path : Url.Path
  query : Option (List Char)
  fragment : Option (List Char)
  deriving Repr, DecidableEq

namespace Url

/-- A path that would read as an authority is kept apart from the scheme by a dot segment. -/
def guard (u : Url) : List Char :=
  match u.authority, u.path with
  | none, .segments ([] :: _ :: _) => ['/', '.']
  | _, _ => []

def writeQuery (u : Url) : List Char :=
  match u.query with
  | some query => '?' :: query
  | none => []

def writeFragment (u : Url) : List Char :=
  match u.fragment with
  | some fragment => '#' :: fragment
  | none => []

def write (u : Url) : String :=
  let authority := match u.authority with
    | some a => a.write
    | none => []
  String.ofList
    (u.scheme ++ ':' :: authority ++ u.guard ++ u.path.write ++ u.writeQuery ++ u.writeFragment)

def appendPair (u : Url) (name value : String) : Url :=
  { u with query := some (Form.appendPair u.query name.toList value.toList) }

end Url

end GeckScript
