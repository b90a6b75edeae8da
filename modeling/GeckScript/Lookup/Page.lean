import GeckScript.Lookup.Word
import GeckScript.Url.Parser

/-!
Pages of the documentation: one for each function, and the index of functions. A page is addressed
by its title in the query of the site's URL.
-/

namespace GeckScript

inductive Page where
  | function (name : String)
  | index
  deriving Repr, DecidableEq

namespace Page

def ofCandidate : Option String → Page
  | some name => function name
  | none => index

end Page

def Selection.page (word : Regex.Expr) (s : Selection) : Page :=
  .ofCandidate (s.candidate word)

structure SiteConfig where
  baseUrl : String
  titleParam : String
  functionsPage : String
  deriving Repr, DecidableEq

structure Site where
  base : Url
  titleParam : String
  functionsPage : String
  deriving Repr, DecidableEq

namespace Site

def ofConfig (c : SiteConfig) : Except UrlError Site := do
  return ⟨← Url.parse c.baseUrl, c.titleParam, c.functionsPage⟩

def title (s : Site) : Page → String
  | .function name => name
  | .index => s.functionsPage

def urlFor (s : Site) (page : Page) : Url :=
  s.base.appendPair s.titleParam (s.title page)

end Site

end GeckScript
