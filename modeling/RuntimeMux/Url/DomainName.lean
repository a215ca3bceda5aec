import RuntimeMux.Text.Quoted
import RuntimeMux.Url.Host
import RuntimeMux.Url.Punycode

/-!
# Names of domains

The names of domains that the proxy is run with. Names in ASCII are mapped to lower case. Of the
others, wide forms and the letters of common scripts are mapped as well, and what is not in ASCII then
is encoded. Labels that are encoded already are not looked into, and letters with other forms in
lower case are taken as they are.
-/

namespace RuntimeMux.Url

/-- The character that a domain name has in place of `c`: the lower-case one, and the plain one for a
wide form. -/
def domainChar (c : Char) : Char :=
  let n := c.toNat
  let plain := if 0xff01 ≤ n ∧ n ≤ 0xff5e then n - 0xfee0 else if n = 0x3002 ∨ n = 0xff61 then 0x2e
    else n
  let lower :=
    if 0x41 ≤ plain ∧ plain ≤ 0x5a then plain + 32
    else if 0xc0 ≤ plain ∧ plain ≤ 0xde ∧ plain ≠ 0xd7 then plain + 32
    else if 0x391 ≤ plain ∧ plain ≤ 0x3a9 then plain + 32
    else if 0x410 ≤ plain ∧ plain ≤ 0x42f then plain + 32
    else if 0x400 ≤ plain ∧ plain ≤ 0x40f then plain + 80
    else plain
  Char.ofNat lower

/-- A label of a domain name in ASCII. -/
def asciiLabel (label : List Char) : List Char :=
  if label.all fun c => c.toNat < 0x80 then label
  else ['x', 'n', '-', '-'] ++ Punycode.encode label

/-- Whether a label can be a part of a domain name: it has no forbidden character, none without a
form of its own, and does not start with one that joins what is before it. -/
def isLabel (label : List Char) : Bool :=
  label.all (fun c => !isForbiddenInDomain c && !Text.inRanges Text.unprintableRanges c.toNat) &&
    !label.head?.any fun c => Text.inRanges Text.combiningRanges c.toNat

/-- The name in lower case and in ASCII, if all its labels can be parts of domain names. -/
def commonName? (cs : List Char) : Option (List Char) :=
  let labels := Text.pieces '.' (cs.map domainChar)
  if labels.all isLabel then some (['.'].intercalate (labels.map asciiLabel)) else none

instance : DomainNames := ⟨commonName?⟩

end RuntimeMux.Url
