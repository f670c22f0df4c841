/-
# Exclusion.Page.Context -- the signals of one page

A page context is read from whatever a page sends: a signal may be text, nothing, or any other JSON,
which then counts as its own text.  Only the JSON value `true` says that the page shows ads.
-/
import Exclusion.Json.Record
import Exclusion.Page.Signal
import Exclusion.Text.Split

namespace Exclusion

set_option autoImplicit false

open Exclusion.Json

structure PageContext where
  site : String := ""
  keywords : List String := []
  sectionName : String := ""
  topSection : String := ""
  pageType : String := ""
  contentId : String := ""
  descriptionUrl : String := ""
  domain : String := ""
  abTest : String := ""
  adsEnabled : Bool := false
  deriving DecidableEq, Repr

/-- What a page gives for a signal. -/
inductive SignalValue where
  | scalar (value : String)
  | list (values : List String)
  deriving DecidableEq, Repr

namespace PageContext

/-- The value of a signal; the unknown signal has none. -/
def value? (page : PageContext) : Signal → Option SignalValue
  | .keywords => some (.list page.keywords)
  | .adsEnabled => some (.scalar (if page.adsEnabled then "true" else "false"))
  | .site => some (.scalar page.site)
  | .sectionName => some (.scalar page.sectionName)
  | .topSection => some (.scalar page.topSection)
  | .pageType => some (.scalar page.pageType)
  | .contentId => some (.scalar page.contentId)
  | .descriptionUrl => some (.scalar page.descriptionUrl)
  | .domain => some (.scalar page.domain)
  | .abTest => some (.scalar page.abTest)
  | .unknown => none

/-- Sets a signal to a text; keywords are taken from between its commas.  Whether the page shows ads
cannot be set by a text. -/
def set (page : PageContext) (signal : Signal) (value : String) : PageContext :=
  match signal with
  | .site => { page with site := value }
  | .keywords => { page with keywords := Text.parts value }
  | .sectionName => { page with sectionName := value }
  | .topSection => { page with topSection := value }
  | .pageType => { page with pageType := value }
  | .contentId => { page with contentId := value }
  | .descriptionUrl => { page with descriptionUrl := value }
  | .domain => { page with domain := value }
  | .abTest => { page with abTest := value }
  | .adsEnabled | .unknown => page

/-! ## Reading and writing -/

/-- Any JSON value as a text: strings as they are, nothing for null, else the JSON text. -/
def scalarText : Json → String
  | .null => ""
  | .string s => s
  | v => v.render

/-- Any JSON value as keywords: a text is cut at commas, a list is taken item by item. -/
def keywordTexts : Json → List String
  | .array items => items.map scalarText
  | .string s => Text.parts s
  | .null => []
  | v => [scalarText v]

/-- The value is true and nothing else. -/
def isTrue : Json → Bool
  | .bool b => b
  | _ => false

/-- Scalar signals, read from any JSON. -/
def scalarCodec : Codec String where
  encode := .string
  decode source node := (node.toJson source).map scalarText

/-- Keywords, read from any JSON. -/
def keywordsCodec : Codec (List String) where
  encode := (Codec.list .string).encode
  decode source node := (node.toJson source).map keywordTexts

/-- Whether the page shows ads, read from any JSON. -/
def adsCodec : Codec Bool where
  encode := .bool
  decode source node := (node.toJson source).map isTrue

/-- The signals in their order. -/
def fields : Fields PageContext
    [String, List String, String, String, String, String, String, String, String, Bool] :=
  .cons (.default "site" site scalarCodec "") <|
  .cons (.default "keywords" keywords keywordsCodec []) <|
  .cons (.default "section" sectionName scalarCodec "") <|
  .cons (.default "top_section" topSection scalarCodec "") <|
  .cons (.default "page_type" pageType scalarCodec "") <|
  .cons (.default "content_id" contentId scalarCodec "") <|
  .cons (.default "description_url" descriptionUrl scalarCodec "") <|
  .cons (.default "domain" domain scalarCodec "") <|
  .cons (.default "ab_test" abTest scalarCodec "") <|
  .cons (.default "ads_enabled" adsEnabled adsCodec false) .nil

def codec : Codec PageContext :=
  .record "struct TargetingContext" fields
    fun (site, keywords, sectionName, topSection, pageType, contentId, descriptionUrl, domain, abTest,
        adsEnabled, ()) =>
      { site, keywords, sectionName, topSection, pageType, contentId, descriptionUrl, domain,
        abTest, adsEnabled }

end PageContext

end Exclusion
