/-
# Exclusion.Page.Signal -- what a page tells about itself

A signal is one of the facts a page gives for rules to look at.  Rules may name a signal that nobody
knows; it is kept as `unknown` and never has a value.
-/
import Exclusion.Json.Choice

namespace Exclusion

set_option autoImplicit false

inductive Signal where
  | site
  | keywords
  | sectionName
  | topSection
  | pageType
  | contentId
  | descriptionUrl
  | domain
  | abTest
  | adsEnabled
  | unknown
  deriving DecidableEq, Repr

namespace Signal

/-- The signals that a page can give, in their order. -/
def all : List Signal :=
  [site, keywords, sectionName, topSection, pageType, contentId, descriptionUrl, domain, abTest,
    adsEnabled]

def name : Signal → String
  | site => "site"
  | keywords => "keywords"
  | sectionName => "section"
  | topSection => "top_section"
  | pageType => "page_type"
  | contentId => "content_id"
  | descriptionUrl => "description_url"
  | domain => "domain"
  | abTest => "ab_test"
  | adsEnabled => "ads_enabled"
  | unknown => "unknown"

/-- The signal has a list of values instead of one. -/
def isList (s : Signal) : Bool :=
  s == keywords

/-- The place of a signal among those that a page can give. -/
def index? (s : Signal) : Option Nat :=
  all.findIdx? (· == s)

/-- Signals by name; any other name is the unknown signal. -/
def codec : Json.Codec Signal :=
  .names name (all ++ [unknown]) (some unknown)

end Signal

end Exclusion
