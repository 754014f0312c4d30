import StructSync.Text.CharSet

/-!
# Upper and lower case

Characters that differ in nothing but their case fold to one and the same character.
`CharSet.foldCase` is the set of all that fold to what a character of the set folds to.
-/

namespace StructSync.CharSet

/-- The characters that fold to others, by the distance to them. -/
def caseDistances : List (Int × String) := [
  (1, "100-12E/2 132-136/2 139-147/2 14A-176/2 179-17D/2 182 184 187 18B 191 198 1A0-1A4/2 1A7
    1AC 1AF 1B3 1B5 1B8 1BC 1C5 1C8 1CB-1DB/2 1DE-1EE/2 1F2 1F4 1F8-21E/2 222-232/2 23B 241
    246-24E/2 370 372 376 3C2 3D8-3EE/2 3F7 3FA 460-480/2 48A-4BE/2 4C1-4CD/2 4D0-52E/2
    1E00-1E94/2 1EA0-1EFE/2 2183 2C60 2C67-2C6B/2 2C72 2C75 2C80-2CE2/2 2CEB 2CED 2CF2
    A640-A66C/2 A680-A69A/2 A722-A72E/2 A732-A76E/2 A779 A77B A77E-A786/2 A78B A790 A792
    A796-A7A8/2 A7B4-A7C2/2 A7C7 A7C9 A7D0 A7D6 A7D8 A7F5"),
  (32, "41-5A C0-D6 D8-DE 391-3A1 3A3-3AB 410-42F FF21-FF3A 118A0-118BF 16E40-16E5F"),
  (48, "531-556 2C00-2C2F"), (38864, "13A0-13EF"),
  (-8, "1F08-1F0F 1F18-1F1D 1F28-1F2F 1F38-1F3F 1F48-1F4D 1F59-1F5F/2 1F68-1F6F 1F88-1F8F
    1F98-1F9F 1FA8-1FAF 1FB8-1FB9 1FD8-1FD9 1FE8-1FE9"),
  (40, "10400-10427 104B0-104D3"), (64, "38C 10C80-10CB2"), (-3008, "1C90-1CBA 1CBD-1CBF"),
  (7264, "10A0-10C5 10C7 10CD"), (39, "10570-1057A 1057C-1058A 1058C-10592 10594-10595"),
  (34, "1E900-1E921"), (26, "24B6-24CF"), (-32, "10D70-10D85"), (16, "2160-216F"),
  (80, "400-40F"), (8, "3CF 13F0-13F5"), (-130, "220 3FD-3FF"), (-86, "1FC8-1FCB"),
  (-1, "1C8A A7CD A7DB FB06"), (2, "1C4 1C7 1CA 1F1"), (-9, "1FBC 1FCC 1FFC"), (37, "388-38A"),
  (205, "189-18A 193"), (218, "1A6 1A9 1AE"), (-42308, "A7AA A7AE"), (-10815, "2C7E-2C7F"),
  (-6210, "1C83-1C84"), (-128, "1FF8-1FF9"), (-126, "1FFA-1FFB"), (-112, "1FEA-1FEB"),
  (-100, "1FDA-1FDB"), (-74, "1FBA-1FBB"), (-48, "3F1 A7C4"), (-7, "3F9 1FEC"), (63, "38E-38F"),
  (116, "345 37F"), (211, "196 19C"), (217, "1B1-1B2"), (-42561, "A7DC"), (-42343, "A7CB"),
  (-42319, "A7AB"), (-42315, "A7AC"), (-42307, "A7C5"), (-42305, "A7AD"), (-42282, "A7B1"),
  (-42280, "A78D"), (-42261, "A7B2"), (-42258, "A7B0"), (-35384, "A7C6"), (-35332, "A77D"),
  (-10783, "2C6F"), (-10782, "2C70"), (-10780, "2C6D"), (-10749, "2C6E"), (-10743, "2C62"),
  (-10727, "2C64"), (-8383, "212A"), (-8262, "212B"), (-7615, "1E9E"), (-7517, "2126"),
  (-7235, "1FD3"), (-7219, "1FE3"), (-7173, "1FBE"), (-6222, "1C80"), (-6221, "1C81"),
  (-6212, "1C82"), (-6211, "1C85"), (-6204, "1C86"), (-6180, "1C87"), (-3814, "2C63"),
  (-268, "17F"), (-195, "243"), (-163, "23D"), (-121, "178"), (-97, "1F6"), (-64, "3F5"),
  (-60, "3F4"), (-58, "1E9B"), (-56, "1F7"), (-54, "3F0"), (-30, "3D0"), (-25, "3D1"),
  (-22, "3D6"), (-15, "3D5"), (15, "4C0"), (28, "2132"), (38, "386"), (69, "244"), (71, "245"),
  (79, "18E"), (202, "18F"), (203, "190"), (206, "186"), (207, "194"), (209, "197"),
  (210, "181"), (213, "19D"), (214, "19F"), (219, "1B7"), (775, "B5"), (928, "A7B3"),
  (10792, "23E"), (10795, "23A"), (35267, "1C88")]

/-- The characters that fold to others, with what they fold to. -/
def casePairs : List (Nat × Nat) :=
  caseDistances.flatMap fun (distance, text) =>
    (ofText text).members.map fun n => (n, (n + distance).toNat)

/-- The set with all characters that differ from one of it in nothing but case. -/
def foldCase (set : CharSet) : CharSet :=
  let folded := casePairs.filterMap fun (n, m) => if set.holds n then some (m, m) else none
  let set := set.union (ofList folded)
  let unfolded := casePairs.filterMap fun (n, m) => if set.holds m then some (n, n) else none
  set.union (ofList unfolded)

/-- The set with the other case of its ASCII letters. -/
def foldAsciiCase (set : CharSet) : CharSet :=
  let letters := (List.range 26).flatMap fun k =>
    (if set.holds (65 + k) then [(97 + k, 97 + k)] else [])
      ++ (if set.holds (97 + k) then [(65 + k, 65 + k)] else [])
  set.union (ofList letters)

end StructSync.CharSet
