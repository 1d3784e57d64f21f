/-
# FlawQuery.Catalogue.Builtin -- the catalogue that is always there

Five flaws of network processes: two services in sequence that do the same work, an optimization
whose outcome nobody looks at, a reduction that is never reversed, and an optimization that is used
to find topology faults.
-/

import FlawQuery.Catalogue.Basic

namespace FlawQuery.Catalogue

/-- One optimization right after another. -/
def doubleOptimization : CatalogueEntry where
  id := "apDoubleOpt"
  name := "Double optimization"
  template := {
    vertices := [
      { id := "opt1", kind := .activity, variant := "NW_OPT" },
      { id := "opt2", kind := .activity, variant := "NW_OPT" }]
    edges := [{ source := "opt1", target := "opt2" }]
    accepted := by decide +kernel }

/-- One service right after another of the same label. -/
def redundantServices : CatalogueEntry where
  id := "apRedundantServices"
  name := "Redundant services"
  template := {
    vertices := [
      { id := "s1", kind := .activity, variant := "S", placeholder := true },
      { id := "s2", kind := .activity, variant := "S", placeholder := true }]
    edges := [{ source := "s1", target := "s2" }]
    accepted := by decide +kernel }

/-- An optimization that a service follows without any condition. -/
def noCondition : CatalogueEntry where
  id := "apNoCondition"
  name := "No conditional processing of optimization output"
  template := {
    vertices := [
      { id := "opt", kind := .activity, variant := "NW_OPT" },
      { id := "s", kind := .activity, placeholder := true }]
    edges := [{ source := "opt", target := "s" }]
    accepted := by decide +kernel }

/-- A network reduction that reaches the end without being reversed. -/
def missingReversal : CatalogueEntry where
  id := "apMissingReversal"
  name := "Missing reversal of network reduction"
  template := {
    vertices := [
      { id := "red", kind := .activity, variant := "NW_RED" },
      { id := "rev", kind := .activity, variant := "NW_RR" },
      { id := "end", kind := .event, variant := "END" }]
    edges := [
      { source := "red", target := "end", upper := .unbounded },
      { source := "red", target := "rev", upper := .unbounded, missing := true }]
    accepted := by decide +kernel }

/-- An optimization whose outcome decides about the display of a topology fault. -/
def abusingOptimization : CatalogueEntry where
  id := "apAbusingOpt"
  name := "Using optimization for identification of topology faults"
  template := {
    vertices := [
      { id := "opt", kind := .activity, variant := "NW_OPT" },
      { id := "gw", kind := .gateway, variant := "EXCLUSIVE" },
      { id := "tf", kind := .activity, variant := "VIS_TOP" }]
    edges := [
      { source := "opt", target := "gw", upper := .unbounded },
      { source := "gw", target := "tf", condition := some "incorrect topology" }]
    accepted := by decide +kernel }

/-- The entries that every installation has. -/
def builtin : Catalogue where
  entries := [doubleOptimization, redundantServices, noCondition, missingReversal,
    abusingOptimization]
  nodup := by decide +kernel

end FlawQuery.Catalogue
