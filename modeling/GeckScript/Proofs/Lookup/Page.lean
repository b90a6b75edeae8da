import GeckScript.Lookup.Page
import GeckScript.Proofs.Basic
import GeckScript.Proofs.Url.Parts

/-!
The addresses of pages. The title of a page is read back from the query of its address, behind what
the configured address had there, and no other part of that address changes.
-/

namespace GeckScript

open Url

namespace Site

theorem ofConfig_eq_ok_iff {config : SiteConfig} {site : Site} :
    ofConfig config = .ok site ↔
      ∃ base, Url.parse config.baseUrl = .ok base ∧
        site = ⟨base, config.titleParam, config.functionsPage⟩ := by
  rw [ofConfig, bind_eq_ok_iff]
  simp only [pure, Except.pure, Except.ok.injEq, eq_comm]

def pairsOf (written : String) : List (String × String) :=
  Form.pairs ((queryOf written).getD [])

theorem pairsOf_urlFor {site : Site} (h : site.base.Separable) (page : Page) :
    pairsOf (site.urlFor page).write =
      pairsOf site.base.write ++ [(site.titleParam, site.title page)] := by
  have hurl : (site.urlFor page).Separable := h.appendPair site.titleParam (site.title page)
  rw [pairsOf, pairsOf, h.queryOf_write, hurl.queryOf_write]
  exact Form.pairs_appendPair site.base.query site.titleParam (site.title page)

/-- A page's address is the configured one but for its query, which ends in the pair of the page;
the pairs in front of it are those that were configured. Pages of different titles have different
addresses. -/
theorem urlFor_adds_title {config : SiteConfig} {site : Site} (h : ofConfig config = .ok site)
    (page : Page) :
    Url.parse config.baseUrl = .ok site.base ∧
      { site.urlFor page with query := site.base.query } = site.base ∧
      front (site.urlFor page).write = front site.base.write ∧
      fragmentOf (site.urlFor page).write = fragmentOf site.base.write ∧
      pairsOf (site.urlFor page).write =
        pairsOf site.base.write ++
          [(config.titleParam, match page with
            | .function name => name
            | .index => config.functionsPage)] ∧
      ∀ other, (site.urlFor page).write = (site.urlFor other).write →
        site.title page = site.title other := by
  obtain ⟨base, hparse, rfl⟩ := ofConfig_eq_ok_iff.1 h
  have hbase : base.Separable := separable_of_parse hparse
  have hurl := hbase.appendPair config.titleParam
    (Site.title ⟨base, config.titleParam, config.functionsPage⟩ page)
  refine ⟨hparse, rfl, ?_, ?_, ?_, fun other hwrite => ?_⟩
  · exact hurl.front_write.trans hbase.front_write.symm
  · exact hurl.fragmentOf_write.trans hbase.fragmentOf_write.symm
  · rw [pairsOf_urlFor hbase]
    cases page <;> rfl
  · -- the last pairs of equal queries are equal
    have hpairs := congrArg pairsOf hwrite
    rw [pairsOf_urlFor hbase, pairsOf_urlFor hbase, List.append_cancel_left_eq,
      List.singleton_inj, Prod.mk.injEq] at hpairs
    exact hpairs.2

/-- A title with every separator in it, behind a query and in front of a fragment. -/
theorem urlFor_adds_title_separators :
    let config : SiteConfig := ⟨"http://u:p@Wiki.test:8080/a/../w?lang=de&&x#top", "title", "All"⟩
    let site : Site := ⟨⟨"http".toList, some ⟨⟨"u".toList, some "p".toList⟩,
      .domain "wiki.test".toList, some 8080⟩, .segments ["w".toList], some "lang=de&&x".toList,
      some "top".toList⟩, "title", "All"⟩
    ofConfig config = .ok site ∧
      pairsOf (site.urlFor (.function "a&b=c#é +")).write =
        pairsOf site.base.write ++ [("title", "a&b=c#é +")] := by
  intro config site
  have hconfig : ofConfig config = .ok site := by decide +kernel
  exact ⟨hconfig, (urlFor_adds_title hconfig (.function "a&b=c#é +")).2.2.2.2.1⟩

end Site

end GeckScript
