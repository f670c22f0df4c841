/-
# Exclusion.Script.Interpreter -- the fixed part of a published script

These lines of JavaScript follow the rules in every published script.  They read the signals of the
page, decide which rules fire, and put a style element into the page for each.
-/
namespace Exclusion.Script

set_option autoImplicit false

/-- The lines of the interpreter. -/
def interpreterLines : List String := [
  "  var KEYS = \x7b",
  "    site: 1, keywords: 1, section: 1, top_section: 1, page_type: 1,",
  "    content_id: 1, description_url: 1, domain: 1, ab_test: 1, ads_enabled: 1",
  "  \x7d;",
  "  var applied = \x7b\x7d;",
  "",
  "  function descriptor() \x7b",
  "    var w = window;",
  "    return w.page_meta && w.page_meta.third_party_apps &&",
  "      w.page_meta.third_party_apps.ntAds && w.page_meta.third_party_apps.ntAds.targeting;",
  "  \x7d",
  "",
  "  function str(v) \x7b",
  "    if (v === null || v === undefined) return \"\";",
  "    return typeof v === \"object\" ? JSON.stringify(v) : String(v);",
  "  \x7d",
  "",
  "  function norm(v, cs) \x7b",
  "    var s = str(v);",
  "    return cs ? s.trim() : s.toLowerCase().trim();",
  "  \x7d",
  "",
  "  function adsEnabled(t) \x7b",
  "    return t.ads_enabled === true;",
  "  \x7d",
  "",
  "  function actual(t, key) \x7b",
  "    if (key === \"ads_enabled\") return [adsEnabled(t) ? \"true\" : \"false\"];",
  "    var raw = t[key];",
  "    if (key === \"keywords\") \x7b",
  "      if (Array.isArray(raw)) return raw.map(str);",
  "      if (typeof raw === \"string\") \x7b",
  "        return raw.split(\",\").map(function (s) \x7b return s.trim(); \x7d)",
  "          .filter(function (s) \x7b return s.length > 0; \x7d);",
  "      \x7d",
  "      return raw === null || raw === undefined ? [] : [str(raw)];",
  "    \x7d",
  "    return [str(raw)];",
  "  \x7d",
  "",
  "  function hits(tokens, values, exact) \x7b",
  "    return tokens.filter(function (tok) \x7b",
  "      return values.some(function (v) \x7b return exact ? v === tok : v.indexOf(tok) !== -1; \x7d);",
  "    \x7d);",
  "  \x7d",
  "",
  "  function evalCond(c, t) \x7b",
  "    if (!KEYS.hasOwnProperty(c.targetKey)) return false;",
  "    var cs = !!c.caseSensitive;",
  "    var values = actual(t, c.targetKey).map(function (v) \x7b return norm(v, cs); \x7d);",
  "    var tokens = str(c.value).split(\",\").map(function (v) \x7b return norm(v, cs); \x7d)",
  "      .filter(function (v) \x7b return v.length > 0; \x7d);",
  "    var list = c.targetKey === \"keywords\";",
  "    switch (c.operator) \x7b",
  "      case \"equals\": return hits(tokens, values, true).length > 0;",
  "      case \"not_equals\": return hits(tokens, values, true).length === 0;",
  "      case \"contains\": return hits(tokens, values, list).length > 0;",
  "      case \"not_contains\": return hits(tokens, values, list).length === 0;",
  "      default: return false;",
  "    \x7d",
  "  \x7d",
  "",
  "  function scheduled(rule, now) \x7b",
  "    if (typeof rule.start === \"number\" && now < rule.start) return false;",
  "    if (typeof rule.end === \"number\" && now > rule.end) return false;",
  "    return true;",
  "  \x7d",
  "",
  "  function fires(rule, t) \x7b",
  "    if (rule.rae && !adsEnabled(t)) return false;",
  "    if (!rule.conds.length) return false;",
  "    var results = rule.conds.map(function (c) \x7b return evalCond(c, t); \x7d);",
  "    return rule.lOp === \"OR\"",
  "      ? results.some(function (r) \x7b return r; \x7d)",
  "      : results.every(function (r) \x7b return r; \x7d);",
  "  \x7d",
  "",
  "  function inject(sel, act) \x7b",
  "    var key = act + \"\\u0000\" + sel;",
  "    if (applied[key]) return;",
  "    // Throws on a malformed selector before anything is injected.",
  "    document.querySelector(sel);",
  "    var show = act === \"show\";",
  "    var css = sel + \" \x7b display: \" + (show ? \"block\" : \"none\") + \" !important; \" +",
  "      \"visibility: \" + (show ? \"visible\" : \"hidden\") + \" !important; \" +",
  "      \"pointer-events: \" + (show ? \"auto\" : \"none\") + \" !important;\" +",
  "      (show ? \"\" : \" height: 0 !important; margin: 0 !important; padding: 0 !important;\") + \" \x7d\";",
  "    var s = document.createElement(\"style\");",
  "    s.setAttribute(\"data-adex\", act);",
  "    s.textContent = css;",
  "    (document.head || document.documentElement).appendChild(s);",
  "    applied[key] = true;",
  "  \x7d",
  "",
  "  function run() \x7b",
  "    var t = descriptor();",
  "    if (!t || !rules.length) return;",
  "    var now = Date.now();",
  "    for (var i = 0; i < rules.length; i++) \x7b",
  "      var rule = rules[i];",
  "      try \x7b",
  "        if (scheduled(rule, now) && fires(rule, t)) inject(rule.sel, rule.act);",
  "      \x7d catch (e) \x7b",
  "        if (window.console) console.warn(\"AdExclusion: rule '\" + rule.name + \"' failed\", e);",
  "      \x7d",
  "    \x7d",
  "  \x7d",
  "",
  "  if (document.readyState === \"loading\") \x7b",
  "    document.addEventListener(\"DOMContentLoaded\", run);",
  "  \x7d else \x7b",
  "    run();",
  "  \x7d"]

/-- The text of the interpreter, a line feed after each line. -/
def interpreter : String :=
  String.join (interpreterLines.map (· ++ "\n"))

end Exclusion.Script
