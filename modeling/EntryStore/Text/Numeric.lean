import EntryStore.Text.Table

/-!
# Numeric characters

The characters of the general categories Nd, Nl and No in Unicode 17.
-/

namespace EntryStore.Text

def numericTable : String :=
  "30 3A B2 B4 B9 BA BC BF 660 66A 6F0 6FA 7C0 7CA 966 970 9E6 9F0 9F4 9FA A66 A70 AE6 AF0 B66
  B70 B72 B78 BE6 BF3 C66 C70 C78 C7F CE6 CF0 D58 D5F D66 D79 DE6 DF0 E50 E5A ED0 EDA F20 F34
  1040 104A 1090 109A 1369 137D 16EE 16F1 17E0 17EA 17F0 17FA 1810 181A 1946 1950 19D0 19DB
  1A80 1A8A 1A90 1A9A 1B50 1B5A 1BB0 1BBA 1C40 1C4A 1C50 1C5A 2070 2071 2074 207A 2080 208A
  2150 2183 2185 218A 2460 249C 24EA 2500 2776 2794 2CFD 2CFE 3007 3008 3021 302A 3038 303B
  3192 3196 3220 322A 3248 3250 3251 3260 3280 328A 32B1 32C0 A620 A62A A6E6 A6F0 A830 A836
  A8D0 A8DA A900 A90A A9D0 A9DA A9F0 A9FA AA50 AA5A ABF0 ABFA FF10 FF1A 10107 10134 10140 10179
  1018A 1018C 102E1 102FC 10320 10324 10341 10342 1034A 1034B 103D1 103D6 104A0 104AA 10858
  10860 10879 10880 108A7 108B0 108FB 10900 10916 1091C 109BC 109BE 109C0 109D0 109D2 10A00
  10A40 10A49 10A7D 10A7F 10A9D 10AA0 10AEB 10AF0 10B58 10B60 10B78 10B80 10BA9 10BB0 10CFA
  10D00 10D30 10D3A 10D40 10D4A 10E60 10E7F 10F1D 10F27 10F51 10F55 10FC5 10FCC 11052 11070
  110F0 110FA 11136 11140 111D0 111DA 111E1 111F5 112F0 112FA 11450 1145A 114D0 114DA 11650
  1165A 116C0 116CA 116D0 116E4 11730 1173C 118E0 118F3 11950 1195A 11BF0 11BFA 11C50 11C6D
  11D50 11D5A 11DA0 11DAA 11DE0 11DEA 11F50 11F5A 11FC0 11FD5 12400 1246F 16130 1613A 16A60
  16A6A 16AC0 16ACA 16B50 16B5A 16B5B 16B62 16D70 16D7A 16E80 16E97 16FF4 16FF7 1CCF0 1CCFA
  1D2C0 1D2D4 1D2E0 1D2F4 1D360 1D379 1D7CE 1D800 1E140 1E14A 1E2F0 1E2FA 1E4F0 1E4FA 1E5F1
  1E5FB 1E8C7 1E8D0 1E950 1E95A 1EC71 1ECAC 1ECAD 1ECB0 1ECB1 1ECB5 1ED01 1ED2E 1ED2F 1ED3E
  1F100 1F10D 1FBF0 1FBFA"

def numericCodes : CodeSet := CodeSet.ofTable numericTable

def isNumeric (c : Char) : Bool := numericCodes.contains c

end EntryStore.Text
