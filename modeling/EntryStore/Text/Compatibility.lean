import EntryStore.Text.Table

/-!
# Compatibility decompositions

Every character with a canonical or compatibility decomposition, fully decomposed: shifts
for those that decompose into one character, and the sequences of the others.  Hangul
syllables are computed, not listed.  The data are those of Unicode 17, with the subscripts,
modifier letters and the Hiragana digraph that are assigned after it.
-/

namespace EntryStore.Text

def singleTable : String :=
  "A0 1 1 20 AA 1 1 61 B2 2 1 32 B5 1 1 3BC B9 1 1 31 BA 1 1 6F 17F 1 1 73 2B0 1 1 68 2B1 1 1
  266 2B2 1 1 6A 2B3 1 1 72 2B4 1 1 279 2B5 1 1 27B 2B6 1 1 281 2B7 1 1 77 2B8 1 1 79 2E0 1 1
  263 2E1 1 1 6C 2E2 1 1 73 2E3 1 1 78 2E4 1 1 295 340 2 1 300 343 1 1 313 374 1 1 2B9 37E 1 1
  3B 387 1 1 B7 3D0 1 1 3B2 3D1 1 1 3B8 3D2 1 1 3A5 3D5 1 1 3C6 3D6 1 1 3C0 3F0 1 1 3BA 3F1 2 1
  3C1 3F4 1 1 398 3F5 1 1 3B5 3F9 1 1 3A3 558 1 1 567 F0C 1 1 F0B 10FC 1 1 10DC 1D2C 1 1 41
  1D2D 1 1 C6 1D2E 1 1 42 1D30 2 1 44 1D32 1 1 18E 1D33 8 1 47 1D3C 1 1 4F 1D3D 1 1 222 1D3E 1
  1 50 1D3F 1 1 52 1D40 2 1 54 1D42 1 1 57 1D43 1 1 61 1D44 2 1 250 1D46 1 1 1D02 1D47 1 1 62
  1D48 2 1 64 1D4A 1 1 259 1D4B 2 1 25B 1D4D 1 1 67 1D4F 1 1 6B 1D50 1 1 6D 1D51 1 1 14B 1D52 1
  1 6F 1D53 1 1 254 1D54 2 1 1D16 1D56 1 1 70 1D57 2 1 74 1D59 1 1 1D1D 1D5A 1 1 26F 1D5B 1 1
  76 1D5C 1 1 1D25 1D5D 3 1 3B2 1D60 2 1 3C6 1D62 1 1 69 1D63 1 1 72 1D64 2 1 75 1D66 2 1 3B2
  1D68 1 1 3C1 1D69 2 1 3C6 1D78 1 1 43D 1D9B 1 1 252 1D9C 1 1 63 1D9D 1 1 255 1D9E 1 1 F0 1D9F
  1 1 25C 1DA0 1 1 66 1DA1 1 1 25F 1DA2 1 1 261 1DA3 1 1 265 1DA4 3 1 268 1DA7 1 1 1D7B 1DA8 1
  1 29D 1DA9 1 1 26D 1DAA 1 1 1D85 1DAB 1 1 29F 1DAC 1 1 271 1DAD 1 1 270 1DAE 4 1 272 1DB2 1 1
  278 1DB3 2 1 282 1DB5 1 1 1AB 1DB6 2 1 289 1DB8 1 1 1D1C 1DB9 2 1 28B 1DBB 1 1 7A 1DBC 3 1
  290 1DBF 1 1 3B8 1FBE 1 1 3B9 1FEF 1 1 60 2000 1 1 20 2001 1 1 20 2002 1 1 20 2003 1 1 20
  2004 1 1 20 2005 1 1 20 2006 1 1 20 2007 1 1 20 2008 1 1 20 2009 1 1 20 200A 1 1 20 2011 1 1
  2010 2024 1 1 2E 202F 1 1 20 205F 1 1 20 2070 1 1 30 2071 1 1 69 2074 6 1 34 207A 1 1 2B 207B
  1 1 2212 207C 1 1 3D 207D 2 1 28 207F 1 1 6E 2080 A 1 30 208A 1 1 2B 208B 1 1 2212 208C 1 1
  3D 208D 2 1 28 2090 1 1 61 2091 1 1 65 2092 1 1 6F 2093 1 1 78 2094 1 1 259 2095 1 1 68 2096
  4 1 6B 209A 1 1 70 209B 2 1 73 209D 1 1 77 209E 2 1 79 2102 1 1 43 2107 1 1 190 210A 1 1 67
  210B 1 1 48 210C 1 1 48 210D 1 1 48 210E 1 1 68 210F 1 1 127 2110 1 1 49 2111 1 1 49 2112 1 1
  4C 2113 1 1 6C 2115 1 1 4E 2119 3 1 50 211C 1 1 52 211D 1 1 52 2124 1 1 5A 2126 1 1 3A9 2128
  1 1 5A 212A 1 1 4B 212C 2 1 42 212F 1 1 65 2130 2 1 45 2133 1 1 4D 2134 1 1 6F 2135 4 1 5D0
  2139 1 1 69 213C 1 1 3C0 213D 1 1 3B3 213E 1 1 393 213F 1 1 3A0 2140 1 1 2211 2145 1 1 44
  2146 2 1 64 2148 2 1 69 2160 1 1 49 2164 1 1 56 2169 1 1 58 216C 1 1 4C 216D 2 1 43 216F 1 1
  4D 2170 1 1 69 2174 1 1 76 2179 1 1 78 217C 1 1 6C 217D 2 1 63 217F 1 1 6D 2329 2 1 3008 2460
  9 1 31 24B6 1A 1 41 24D0 1A 1 61 24EA 1 1 30 2C7C 1 1 6A 2C7D 1 1 56 2D6F 1 1 2D61 2E9F 1 1
  6BCD 2EF3 1 1 9F9F 2F00 1 1 4E00 2F01 1 1 4E28 2F02 1 1 4E36 2F03 1 1 4E3F 2F04 1 1 4E59 2F05
  1 1 4E85 2F06 1 1 4E8C 2F07 1 1 4EA0 2F08 1 1 4EBA 2F09 1 1 513F 2F0A 1 1 5165 2F0B 1 1 516B
  2F0C 1 1 5182 2F0D 1 1 5196 2F0E 1 1 51AB 2F0F 1 1 51E0 2F10 1 1 51F5 2F11 1 1 5200 2F12 1 1
  529B 2F13 1 1 52F9 2F14 1 1 5315 2F15 1 1 531A 2F16 1 1 5338 2F17 1 1 5341 2F18 1 1 535C 2F19
  1 1 5369 2F1A 1 1 5382 2F1B 1 1 53B6 2F1C 1 1 53C8 2F1D 1 1 53E3 2F1E 1 1 56D7 2F1F 1 1 571F
  2F20 1 1 58EB 2F21 1 1 5902 2F22 1 1 590A 2F23 1 1 5915 2F24 1 1 5927 2F25 1 1 5973 2F26 1 1
  5B50 2F27 1 1 5B80 2F28 1 1 5BF8 2F29 1 1 5C0F 2F2A 1 1 5C22 2F2B 1 1 5C38 2F2C 1 1 5C6E 2F2D
  1 1 5C71 2F2E 1 1 5DDB 2F2F 1 1 5DE5 2F30 1 1 5DF1 2F31 1 1 5DFE 2F32 1 1 5E72 2F33 1 1 5E7A
  2F34 1 1 5E7F 2F35 1 1 5EF4 2F36 1 1 5EFE 2F37 1 1 5F0B 2F38 1 1 5F13 2F39 1 1 5F50 2F3A 1 1
  5F61 2F3B 1 1 5F73 2F3C 1 1 5FC3 2F3D 1 1 6208 2F3E 1 1 6236 2F3F 1 1 624B 2F40 1 1 652F 2F41
  1 1 6534 2F42 1 1 6587 2F43 1 1 6597 2F44 1 1 65A4 2F45 1 1 65B9 2F46 1 1 65E0 2F47 1 1 65E5
  2F48 1 1 66F0 2F49 1 1 6708 2F4A 1 1 6728 2F4B 1 1 6B20 2F4C 1 1 6B62 2F4D 1 1 6B79 2F4E 1 1
  6BB3 2F4F 1 1 6BCB 2F50 1 1 6BD4 2F51 1 1 6BDB 2F52 1 1 6C0F 2F53 1 1 6C14 2F54 1 1 6C34 2F55
  1 1 706B 2F56 1 1 722A 2F57 1 1 7236 2F58 1 1 723B 2F59 1 1 723F 2F5A 1 1 7247 2F5B 1 1 7259
  2F5C 1 1 725B 2F5D 1 1 72AC 2F5E 1 1 7384 2F5F 1 1 7389 2F60 1 1 74DC 2F61 1 1 74E6 2F62 1 1
  7518 2F63 1 1 751F 2F64 1 1 7528 2F65 1 1 7530 2F66 1 1 758B 2F67 1 1 7592 2F68 1 1 7676 2F69
  1 1 767D 2F6A 1 1 76AE 2F6B 1 1 76BF 2F6C 1 1 76EE 2F6D 1 1 77DB 2F6E 1 1 77E2 2F6F 1 1 77F3
  2F70 1 1 793A 2F71 1 1 79B8 2F72 1 1 79BE 2F73 1 1 7A74 2F74 1 1 7ACB 2F75 1 1 7AF9 2F76 1 1
  7C73 2F77 1 1 7CF8 2F78 1 1 7F36 2F79 1 1 7F51 2F7A 1 1 7F8A 2F7B 1 1 7FBD 2F7C 1 1 8001 2F7D
  1 1 800C 2F7E 1 1 8012 2F7F 1 1 8033 2F80 1 1 807F 2F81 1 1 8089 2F82 1 1 81E3 2F83 1 1 81EA
  2F84 1 1 81F3 2F85 1 1 81FC 2F86 1 1 820C 2F87 1 1 821B 2F88 1 1 821F 2F89 1 1 826E 2F8A 1 1
  8272 2F8B 1 1 8278 2F8C 1 1 864D 2F8D 1 1 866B 2F8E 1 1 8840 2F8F 1 1 884C 2F90 1 1 8863 2F91
  1 1 897E 2F92 1 1 898B 2F93 1 1 89D2 2F94 1 1 8A00 2F95 1 1 8C37 2F96 1 1 8C46 2F97 1 1 8C55
  2F98 1 1 8C78 2F99 1 1 8C9D 2F9A 1 1 8D64 2F9B 1 1 8D70 2F9C 1 1 8DB3 2F9D 1 1 8EAB 2F9E 1 1
  8ECA 2F9F 1 1 8F9B 2FA0 1 1 8FB0 2FA1 1 1 8FB5 2FA2 1 1 9091 2FA3 1 1 9149 2FA4 1 1 91C6 2FA5
  1 1 91CC 2FA6 1 1 91D1 2FA7 1 1 9577 2FA8 1 1 9580 2FA9 1 1 961C 2FAA 1 1 96B6 2FAB 1 1 96B9
  2FAC 1 1 96E8 2FAD 1 1 9751 2FAE 1 1 975E 2FAF 1 1 9762 2FB0 1 1 9769 2FB1 1 1 97CB 2FB2 1 1
  97ED 2FB3 1 1 97F3 2FB4 1 1 9801 2FB5 1 1 98A8 2FB6 1 1 98DB 2FB7 1 1 98DF 2FB8 1 1 9996 2FB9
  1 1 9999 2FBA 1 1 99AC 2FBB 1 1 9AA8 2FBC 1 1 9AD8 2FBD 1 1 9ADF 2FBE 1 1 9B25 2FBF 1 1 9B2F
  2FC0 1 1 9B32 2FC1 1 1 9B3C 2FC2 1 1 9B5A 2FC3 1 1 9CE5 2FC4 1 1 9E75 2FC5 1 1 9E7F 2FC6 1 1
  9EA5 2FC7 1 1 9EBB 2FC8 1 1 9EC3 2FC9 1 1 9ECD 2FCA 1 1 9ED1 2FCB 1 1 9EF9 2FCC 1 1 9EFD 2FCD
  1 1 9F0E 2FCE 1 1 9F13 2FCF 1 1 9F20 2FD0 1 1 9F3B 2FD1 1 1 9F4A 2FD2 1 1 9F52 2FD3 1 1 9F8D
  2FD4 1 1 9F9C 2FD5 1 1 9FA0 3000 1 1 20 3036 1 1 3012 3038 1 1 5341 3039 2 1 5344 3131 2 1
  1100 3133 1 1 11AA 3134 1 1 1102 3135 2 1 11AC 3137 3 1 1103 313A 6 1 11B0 3140 1 1 111A 3141
  3 1 1106 3144 1 1 1121 3145 A 1 1109 314F 15 1 1161 3164 1 1 1160 3165 2 1 1114 3167 2 1 11C7
  3169 1 1 11CC 316A 1 1 11CE 316B 1 1 11D3 316C 1 1 11D7 316D 1 1 11D9 316E 1 1 111C 316F 1 1
  11DD 3170 1 1 11DF 3171 2 1 111D 3173 1 1 1120 3174 2 1 1122 3176 1 1 1127 3177 1 1 1129 3178
  5 1 112B 317D 1 1 1132 317E 1 1 1136 317F 1 1 1140 3180 1 1 1147 3181 1 1 114C 3182 2 1 11F1
  3184 3 1 1157 3187 2 1 1184 3189 1 1 1188 318A 2 1 1191 318C 1 1 1194 318D 1 1 119E 318E 1 1
  11A1 3192 1 1 4E00 3193 1 1 4E8C 3194 1 1 4E09 3195 1 1 56DB 3196 1 1 4E0A 3197 1 1 4E2D 3198
  1 1 4E0B 3199 1 1 7532 319A 1 1 4E59 319B 1 1 4E19 319C 1 1 4E01 319D 1 1 5929 319E 1 1 5730
  319F 1 1 4EBA 3244 1 1 554F 3245 1 1 5E7C 3246 1 1 6587 3247 1 1 7B8F 3260 1 1 1100 3261 2 1
  1102 3263 3 1 1105 3266 1 1 1109 3267 2 1 110B 3269 5 1 110E 3280 1 1 4E00 3281 1 1 4E8C 3282
  1 1 4E09 3283 1 1 56DB 3284 1 1 4E94 3285 1 1 516D 3286 1 1 4E03 3287 1 1 516B 3288 1 1 4E5D
  3289 1 1 5341 328A 1 1 6708 328B 1 1 706B 328C 1 1 6C34 328D 1 1 6728 328E 1 1 91D1 328F 1 1
  571F 3290 1 1 65E5 3291 1 1 682A 3292 1 1 6709 3293 1 1 793E 3294 1 1 540D 3295 1 1 7279 3296
  1 1 8CA1 3297 1 1 795D 3298 1 1 52B4 3299 1 1 79D8 329A 1 1 7537 329B 1 1 5973 329C 1 1 9069
  329D 1 1 512A 329E 1 1 5370 329F 1 1 6CE8 32A0 1 1 9805 32A1 1 1 4F11 32A2 1 1 5199 32A3 1 1
  6B63 32A4 1 1 4E0A 32A5 1 1 4E2D 32A6 1 1 4E0B 32A7 1 1 5DE6 32A8 1 1 53F3 32A9 1 1 533B 32AA
  1 1 5B97 32AB 1 1 5B66 32AC 1 1 76E3 32AD 1 1 4F01 32AE 1 1 8CC7 32AF 1 1 5354 32B0 1 1 591C
  32D0 1 1 30A2 32D1 1 1 30A4 32D2 1 1 30A6 32D3 1 1 30A8 32D4 2 1 30AA 32D6 1 1 30AD 32D7 1 1
  30AF 32D8 1 1 30B1 32D9 1 1 30B3 32DA 1 1 30B5 32DB 1 1 30B7 32DC 1 1 30B9 32DD 1 1 30BB 32DE
  1 1 30BD 32DF 1 1 30BF 32E0 1 1 30C1 32E1 1 1 30C4 32E2 1 1 30C6 32E3 1 1 30C8 32E4 6 1 30CA
  32EA 1 1 30D2 32EB 1 1 30D5 32EC 1 1 30D8 32ED 1 1 30DB 32EE 5 1 30DE 32F3 1 1 30E4 32F4 1 1
  30E6 32F5 6 1 30E8 32FB 4 1 30EF A69C 1 1 44A A69D 1 1 44C A770 1 1 A76F A7F1 1 1 53 A7F2 1 1
  43 A7F3 1 1 46 A7F4 1 1 51 A7F8 1 1 126 A7F9 1 1 153 AB5C 1 1 A727 AB5D 1 1 AB37 AB5E 1 1 26B
  AB5F 1 1 AB52 AB69 1 1 28D F900 1 1 8C48 F901 1 1 66F4 F902 1 1 8ECA F903 1 1 8CC8 F904 1 1
  6ED1 F905 1 1 4E32 F906 1 1 53E5 F907 1 1 9F9C F908 1 1 9F9C F909 1 1 5951 F90A 1 1 91D1 F90B
  1 1 5587 F90C 1 1 5948 F90D 1 1 61F6 F90E 1 1 7669 F90F 1 1 7F85 F910 1 1 863F F911 1 1 87BA
  F912 1 1 88F8 F913 1 1 908F F914 1 1 6A02 F915 1 1 6D1B F916 1 1 70D9 F917 1 1 73DE F918 1 1
  843D F919 1 1 916A F91A 1 1 99F1 F91B 1 1 4E82 F91C 1 1 5375 F91D 1 1 6B04 F91E 1 1 721B F91F
  1 1 862D F920 1 1 9E1E F921 1 1 5D50 F922 1 1 6FEB F923 1 1 85CD F924 1 1 8964 F925 1 1 62C9
  F926 1 1 81D8 F927 1 1 881F F928 1 1 5ECA F929 1 1 6717 F92A 1 1 6D6A F92B 1 1 72FC F92C 1 1
  90CE F92D 1 1 4F86 F92E 1 1 51B7 F92F 1 1 52DE F930 1 1 64C4 F931 1 1 6AD3 F932 1 1 7210 F933
  1 1 76E7 F934 1 1 8001 F935 1 1 8606 F936 1 1 865C F937 1 1 8DEF F938 1 1 9732 F939 1 1 9B6F
  F93A 1 1 9DFA F93B 1 1 788C F93C 1 1 797F F93D 1 1 7DA0 F93E 1 1 83C9 F93F 1 1 9304 F940 1 1
  9E7F F941 1 1 8AD6 F942 1 1 58DF F943 1 1 5F04 F944 1 1 7C60 F945 1 1 807E F946 1 1 7262 F947
  1 1 78CA F948 1 1 8CC2 F949 1 1 96F7 F94A 1 1 58D8 F94B 1 1 5C62 F94C 1 1 6A13 F94D 1 1 6DDA
  F94E 1 1 6F0F F94F 1 1 7D2F F950 1 1 7E37 F951 1 1 964B F952 1 1 52D2 F953 1 1 808B F954 1 1
  51DC F955 1 1 51CC F956 1 1 7A1C F957 1 1 7DBE F958 1 1 83F1 F959 1 1 9675 F95A 1 1 8B80 F95B
  1 1 62CF F95C 1 1 6A02 F95D 1 1 8AFE F95E 1 1 4E39 F95F 1 1 5BE7 F960 1 1 6012 F961 1 1 7387
  F962 1 1 7570 F963 1 1 5317 F964 1 1 78FB F965 1 1 4FBF F966 1 1 5FA9 F967 1 1 4E0D F968 1 1
  6CCC F969 1 1 6578 F96A 1 1 7D22 F96B 1 1 53C3 F96C 1 1 585E F96D 1 1 7701 F96E 1 1 8449 F96F
  1 1 8AAA F970 1 1 6BBA F971 1 1 8FB0 F972 1 1 6C88 F973 1 1 62FE F974 1 1 82E5 F975 1 1 63A0
  F976 1 1 7565 F977 1 1 4EAE F978 1 1 5169 F979 1 1 51C9 F97A 1 1 6881 F97B 1 1 7CE7 F97C 1 1
  826F F97D 1 1 8AD2 F97E 1 1 91CF F97F 1 1 52F5 F980 1 1 5442 F981 1 1 5973 F982 1 1 5EEC F983
  1 1 65C5 F984 1 1 6FFE F985 1 1 792A F986 1 1 95AD F987 1 1 9A6A F988 1 1 9E97 F989 1 1 9ECE
  F98A 1 1 529B F98B 1 1 66C6 F98C 1 1 6B77 F98D 1 1 8F62 F98E 1 1 5E74 F98F 1 1 6190 F990 1 1
  6200 F991 1 1 649A F992 1 1 6F23 F993 1 1 7149 F994 1 1 7489 F995 1 1 79CA F996 1 1 7DF4 F997
  1 1 806F F998 1 1 8F26 F999 1 1 84EE F99A 1 1 9023 F99B 1 1 934A F99C 1 1 5217 F99D 1 1 52A3
  F99E 1 1 54BD F99F 1 1 70C8 F9A0 1 1 88C2 F9A1 1 1 8AAA F9A2 1 1 5EC9 F9A3 1 1 5FF5 F9A4 1 1
  637B F9A5 1 1 6BAE F9A6 1 1 7C3E F9A7 1 1 7375 F9A8 1 1 4EE4 F9A9 1 1 56F9 F9AA 1 1 5BE7 F9AB
  1 1 5DBA F9AC 1 1 601C F9AD 1 1 73B2 F9AE 1 1 7469 F9AF 1 1 7F9A F9B0 1 1 8046 F9B1 1 1 9234
  F9B2 1 1 96F6 F9B3 1 1 9748 F9B4 1 1 9818 F9B5 1 1 4F8B F9B6 1 1 79AE F9B7 1 1 91B4 F9B8 1 1
  96B8 F9B9 1 1 60E1 F9BA 1 1 4E86 F9BB 1 1 50DA F9BC 1 1 5BEE F9BD 1 1 5C3F F9BE 1 1 6599 F9BF
  1 1 6A02 F9C0 1 1 71CE F9C1 1 1 7642 F9C2 1 1 84FC F9C3 1 1 907C F9C4 1 1 9F8D F9C5 1 1 6688
  F9C6 1 1 962E F9C7 1 1 5289 F9C8 1 1 677B F9C9 1 1 67F3 F9CA 1 1 6D41 F9CB 1 1 6E9C F9CC 1 1
  7409 F9CD 1 1 7559 F9CE 1 1 786B F9CF 1 1 7D10 F9D0 1 1 985E F9D1 1 1 516D F9D2 1 1 622E F9D3
  1 1 9678 F9D4 1 1 502B F9D5 1 1 5D19 F9D6 1 1 6DEA F9D7 1 1 8F2A F9D8 1 1 5F8B F9D9 1 1 6144
  F9DA 1 1 6817 F9DB 1 1 7387 F9DC 1 1 9686 F9DD 1 1 5229 F9DE 1 1 540F F9DF 1 1 5C65 F9E0 1 1
  6613 F9E1 1 1 674E F9E2 1 1 68A8 F9E3 1 1 6CE5 F9E4 1 1 7406 F9E5 1 1 75E2 F9E6 1 1 7F79 F9E7
  1 1 88CF F9E8 1 1 88E1 F9E9 1 1 91CC F9EA 1 1 96E2 F9EB 1 1 533F F9EC 1 1 6EBA F9ED 1 1 541D
  F9EE 1 1 71D0 F9EF 1 1 7498 F9F0 1 1 85FA F9F1 1 1 96A3 F9F2 1 1 9C57 F9F3 1 1 9E9F F9F4 1 1
  6797 F9F5 1 1 6DCB F9F6 1 1 81E8 F9F7 1 1 7ACB F9F8 1 1 7B20 F9F9 1 1 7C92 F9FA 1 1 72C0 F9FB
  1 1 7099 F9FC 1 1 8B58 F9FD 1 1 4EC0 F9FE 1 1 8336 F9FF 1 1 523A FA00 1 1 5207 FA01 1 1 5EA6
  FA02 1 1 62D3 FA03 1 1 7CD6 FA04 1 1 5B85 FA05 1 1 6D1E FA06 1 1 66B4 FA07 1 1 8F3B FA08 1 1
  884C FA09 1 1 964D FA0A 1 1 898B FA0B 1 1 5ED3 FA0C 1 1 5140 FA0D 1 1 55C0 FA10 1 1 585A FA12
  1 1 6674 FA15 1 1 51DE FA16 1 1 732A FA17 1 1 76CA FA18 1 1 793C FA19 1 1 795E FA1A 1 1 7965
  FA1B 1 1 798F FA1C 1 1 9756 FA1D 1 1 7CBE FA1E 1 1 7FBD FA20 1 1 8612 FA22 1 1 8AF8 FA25 1 1
  9038 FA26 1 1 90FD FA2A 1 1 98EF FA2B 1 1 98FC FA2C 1 1 9928 FA2D 1 1 9DB4 FA2E 1 1 90DE FA2F
  1 1 96B7 FA30 1 1 4FAE FA31 1 1 50E7 FA32 1 1 514D FA33 1 1 52C9 FA34 1 1 52E4 FA35 1 1 5351
  FA36 1 1 559D FA37 1 1 5606 FA38 1 1 5668 FA39 1 1 5840 FA3A 1 1 58A8 FA3B 1 1 5C64 FA3C 1 1
  5C6E FA3D 1 1 6094 FA3E 1 1 6168 FA3F 1 1 618E FA40 1 1 61F2 FA41 1 1 654F FA42 1 1 65E2 FA43
  1 1 6691 FA44 1 1 6885 FA45 1 1 6D77 FA46 1 1 6E1A FA47 1 1 6F22 FA48 1 1 716E FA49 1 1 722B
  FA4A 1 1 7422 FA4B 1 1 7891 FA4C 1 1 793E FA4D 1 1 7949 FA4E 1 1 7948 FA4F 1 1 7950 FA50 1 1
  7956 FA51 1 1 795D FA52 2 1 798D FA54 1 1 7A40 FA55 1 1 7A81 FA56 1 1 7BC0 FA57 1 1 7DF4 FA58
  1 1 7E09 FA59 1 1 7E41 FA5A 1 1 7F72 FA5B 1 1 8005 FA5C 1 1 81ED FA5D 1 1 8279 FA5E 1 1 8279
  FA5F 1 1 8457 FA60 1 1 8910 FA61 1 1 8996 FA62 1 1 8B01 FA63 1 1 8B39 FA64 1 1 8CD3 FA65 1 1
  8D08 FA66 1 1 8FB6 FA67 1 1 9038 FA68 1 1 96E3 FA69 1 1 97FF FA6A 1 1 983B FA6B 1 1 6075 FA6C
  1 1 242EE FA6D 1 1 8218 FA70 1 1 4E26 FA71 1 1 51B5 FA72 1 1 5168 FA73 1 1 4F80 FA74 1 1 5145
  FA75 1 1 5180 FA76 1 1 52C7 FA77 1 1 52FA FA78 1 1 559D FA79 1 1 5555 FA7A 1 1 5599 FA7B 1 1
  55E2 FA7C 1 1 585A FA7D 1 1 58B3 FA7E 1 1 5944 FA7F 1 1 5954 FA80 1 1 5A62 FA81 1 1 5B28 FA82
  1 1 5ED2 FA83 1 1 5ED9 FA84 1 1 5F69 FA85 1 1 5FAD FA86 1 1 60D8 FA87 1 1 614E FA88 1 1 6108
  FA89 1 1 618E FA8A 1 1 6160 FA8B 1 1 61F2 FA8C 1 1 6234 FA8D 1 1 63C4 FA8E 1 1 641C FA8F 1 1
  6452 FA90 1 1 6556 FA91 1 1 6674 FA92 1 1 6717 FA93 1 1 671B FA94 1 1 6756 FA95 1 1 6B79 FA96
  1 1 6BBA FA97 1 1 6D41 FA98 1 1 6EDB FA99 1 1 6ECB FA9A 1 1 6F22 FA9B 1 1 701E FA9C 1 1 716E
  FA9D 1 1 77A7 FA9E 1 1 7235 FA9F 1 1 72AF FAA0 1 1 732A FAA1 1 1 7471 FAA2 1 1 7506 FAA3 1 1
  753B FAA4 1 1 761D FAA5 1 1 761F FAA6 1 1 76CA FAA7 1 1 76DB FAA8 1 1 76F4 FAA9 1 1 774A FAAA
  1 1 7740 FAAB 1 1 78CC FAAC 1 1 7AB1 FAAD 1 1 7BC0 FAAE 1 1 7C7B FAAF 1 1 7D5B FAB0 1 1 7DF4
  FAB1 1 1 7F3E FAB2 1 1 8005 FAB3 1 1 8352 FAB4 1 1 83EF FAB5 1 1 8779 FAB6 1 1 8941 FAB7 1 1
  8986 FAB8 1 1 8996 FAB9 1 1 8ABF FABA 1 1 8AF8 FABB 1 1 8ACB FABC 1 1 8B01 FABD 1 1 8AFE FABE
  1 1 8AED FABF 1 1 8B39 FAC0 1 1 8B8A FAC1 1 1 8D08 FAC2 1 1 8F38 FAC3 1 1 9072 FAC4 1 1 9199
  FAC5 1 1 9276 FAC6 1 1 967C FAC7 1 1 96E3 FAC8 1 1 9756 FAC9 1 1 97DB FACA 1 1 97FF FACB 1 1
  980B FACC 1 1 983B FACD 1 1 9B12 FACE 1 1 9F9C FACF 1 1 2284A FAD0 1 1 22844 FAD1 1 1 233D5
  FAD2 1 1 3B9D FAD3 1 1 4018 FAD4 1 1 4039 FAD5 1 1 25249 FAD6 1 1 25CD0 FAD7 1 1 27ED3 FAD8 1
  1 9F43 FAD9 1 1 9F8E FB20 1 1 5E2 FB21 1 1 5D0 FB22 2 1 5D3 FB24 3 1 5DB FB27 1 1 5E8 FB28 1
  1 5EA FB29 1 1 2B FB50 1 1 671 FB51 1 1 671 FB52 1 1 67B FB53 1 1 67B FB54 1 1 67B FB55 1 1
  67B FB56 1 1 67E FB57 1 1 67E FB58 1 1 67E FB59 1 1 67E FB5A 1 1 680 FB5B 1 1 680 FB5C 1 1
  680 FB5D 1 1 680 FB5E 1 1 67A FB5F 1 1 67A FB60 1 1 67A FB61 1 1 67A FB62 1 1 67F FB63 1 1
  67F FB64 1 1 67F FB65 1 1 67F FB66 1 1 679 FB67 1 1 679 FB68 1 1 679 FB69 1 1 679 FB6A 1 1
  6A4 FB6B 1 1 6A4 FB6C 1 1 6A4 FB6D 1 1 6A4 FB6E 1 1 6A6 FB6F 1 1 6A6 FB70 1 1 6A6 FB71 1 1
  6A6 FB72 1 1 684 FB73 1 1 684 FB74 1 1 684 FB75 1 1 684 FB76 1 1 683 FB77 1 1 683 FB78 1 1
  683 FB79 1 1 683 FB7A 1 1 686 FB7B 1 1 686 FB7C 1 1 686 FB7D 2 1 686 FB7F 1 1 687 FB80 1 1
  687 FB81 1 1 687 FB82 1 1 68D FB83 1 1 68D FB84 1 1 68C FB85 1 1 68C FB86 1 1 68E FB87 1 1
  68E FB88 1 1 688 FB89 1 1 688 FB8A 1 1 698 FB8B 1 1 698 FB8C 1 1 691 FB8D 1 1 691 FB8E 1 1
  6A9 FB8F 1 1 6A9 FB90 1 1 6A9 FB91 1 1 6A9 FB92 1 1 6AF FB93 1 1 6AF FB94 1 1 6AF FB95 1 1
  6AF FB96 1 1 6B3 FB97 1 1 6B3 FB98 1 1 6B3 FB99 1 1 6B3 FB9A 1 1 6B1 FB9B 1 1 6B1 FB9C 1 1
  6B1 FB9D 1 1 6B1 FB9E 1 1 6BA FB9F 2 1 6BA FBA1 1 1 6BB FBA2 1 1 6BB FBA3 1 1 6BB FBA6 1 1
  6C1 FBA7 1 1 6C1 FBA8 1 1 6C1 FBA9 1 1 6C1 FBAA 1 1 6BE FBAB 1 1 6BE FBAC 1 1 6BE FBAD 1 1
  6BE FBAE 1 1 6D2 FBAF 1 1 6D2 FBD3 1 1 6AD FBD4 1 1 6AD FBD5 1 1 6AD FBD6 1 1 6AD FBD7 1 1
  6C7 FBD8 1 1 6C7 FBD9 1 1 6C6 FBDA 1 1 6C6 FBDB 1 1 6C8 FBDC 1 1 6C8 FBDE 1 1 6CB FBDF 1 1
  6CB FBE0 1 1 6C5 FBE1 1 1 6C5 FBE2 1 1 6C9 FBE3 1 1 6C9 FBE4 1 1 6D0 FBE5 1 1 6D0 FBE6 1 1
  6D0 FBE7 1 1 6D0 FBE8 1 1 649 FBE9 1 1 649 FBFC 1 1 6CC FBFD 1 1 6CC FBFE 1 1 6CC FBFF 1 1
  6CC FE10 1 1 2C FE11 2 1 3001 FE13 2 1 3A FE15 1 1 21 FE16 1 1 3F FE17 2 1 3016 FE31 1 1 2014
  FE32 1 1 2013 FE33 1 1 5F FE34 1 1 5F FE35 2 1 28 FE37 1 1 7B FE38 1 1 7D FE39 2 1 3014 FE3B
  2 1 3010 FE3D 2 1 300A FE3F 2 1 3008 FE41 4 1 300C FE47 1 1 5B FE48 1 1 5D FE4D 1 1 5F FE4E 1
  1 5F FE4F 1 1 5F FE50 1 1 2C FE51 1 1 3001 FE52 1 1 2E FE54 1 1 3B FE55 1 1 3A FE56 1 1 3F
  FE57 1 1 21 FE58 1 1 2014 FE59 2 1 28 FE5B 1 1 7B FE5C 1 1 7D FE5D 2 1 3014 FE5F 1 1 23 FE60
  1 1 26 FE61 2 1 2A FE63 1 1 2D FE64 1 1 3C FE65 1 1 3E FE66 1 1 3D FE68 1 1 5C FE69 2 1 24
  FE6B 1 1 40 FE80 1 1 621 FE8D 1 1 627 FE8E 2 1 627 FE90 1 1 628 FE91 1 1 628 FE92 2 1 628
  FE94 2 1 629 FE96 1 1 62A FE97 1 1 62A FE98 2 1 62A FE9A 1 1 62B FE9B 1 1 62B FE9C 2 1 62B
  FE9E 1 1 62C FE9F 1 1 62C FEA0 2 1 62C FEA2 1 1 62D FEA3 1 1 62D FEA4 2 1 62D FEA6 1 1 62E
  FEA7 1 1 62E FEA8 2 1 62E FEAA 2 1 62F FEAC 2 1 630 FEAE 2 1 631 FEB0 2 1 632 FEB2 1 1 633
  FEB3 1 1 633 FEB4 2 1 633 FEB6 1 1 634 FEB7 1 1 634 FEB8 2 1 634 FEBA 1 1 635 FEBB 1 1 635
  FEBC 2 1 635 FEBE 1 1 636 FEBF 1 1 636 FEC0 2 1 636 FEC2 1 1 637 FEC3 1 1 637 FEC4 2 1 637
  FEC6 1 1 638 FEC7 1 1 638 FEC8 2 1 638 FECA 1 1 639 FECB 1 1 639 FECC 2 1 639 FECE 1 1 63A
  FECF 1 1 63A FED0 1 1 63A FED1 1 1 641 FED2 1 1 641 FED3 1 1 641 FED4 2 1 641 FED6 1 1 642
  FED7 1 1 642 FED8 2 1 642 FEDA 1 1 643 FEDB 1 1 643 FEDC 2 1 643 FEDE 1 1 644 FEDF 1 1 644
  FEE0 2 1 644 FEE2 1 1 645 FEE3 1 1 645 FEE4 2 1 645 FEE6 1 1 646 FEE7 1 1 646 FEE8 2 1 646
  FEEA 1 1 647 FEEB 1 1 647 FEEC 2 1 647 FEEE 2 1 648 FEF0 2 1 649 FEF2 1 1 64A FEF3 1 1 64A
  FEF4 1 1 64A FF01 5E 1 21 FF5F 2 1 2985 FF61 1 1 3002 FF62 2 1 300C FF64 1 1 3001 FF65 1 1
  30FB FF66 1 1 30F2 FF67 1 1 30A1 FF68 1 1 30A3 FF69 1 1 30A5 FF6A 1 1 30A7 FF6B 1 1 30A9 FF6C
  1 1 30E3 FF6D 1 1 30E5 FF6E 1 1 30E7 FF6F 1 1 30C3 FF70 1 1 30FC FF71 1 1 30A2 FF72 1 1 30A4
  FF73 1 1 30A6 FF74 1 1 30A8 FF75 2 1 30AA FF77 1 1 30AD FF78 1 1 30AF FF79 1 1 30B1 FF7A 1 1
  30B3 FF7B 1 1 30B5 FF7C 1 1 30B7 FF7D 1 1 30B9 FF7E 1 1 30BB FF7F 1 1 30BD FF80 1 1 30BF FF81
  1 1 30C1 FF82 1 1 30C4 FF83 1 1 30C6 FF84 1 1 30C8 FF85 6 1 30CA FF8B 1 1 30D2 FF8C 1 1 30D5
  FF8D 1 1 30D8 FF8E 1 1 30DB FF8F 5 1 30DE FF94 1 1 30E4 FF95 1 1 30E6 FF96 6 1 30E8 FF9C 1 1
  30EF FF9D 1 1 30F3 FF9E 2 1 3099 FFA0 1 1 1160 FFA1 2 1 1100 FFA3 1 1 11AA FFA4 1 1 1102 FFA5
  2 1 11AC FFA7 3 1 1103 FFAA 6 1 11B0 FFB0 1 1 111A FFB1 3 1 1106 FFB4 1 1 1121 FFB5 A 1 1109
  FFC2 6 1 1161 FFCA 6 1 1167 FFD2 6 1 116D FFDA 3 1 1173 FFE0 2 1 A2 FFE2 1 1 AC FFE4 1 1 A6
  FFE5 1 1 A5 FFE6 1 1 20A9 FFE8 1 1 2502 FFE9 4 1 2190 FFED 1 1 25A0 FFEE 1 1 25CB 10781 2 1
  2D0 10783 1 1 E6 10784 1 1 299 10785 1 1 253 10787 1 1 2A3 10788 1 1 AB66 10789 1 1 2A5 1078A
  1 1 2A4 1078B 2 1 256 1078D 1 1 1D91 1078E 1 1 258 1078F 1 1 25E 10790 1 1 2A9 10791 1 1 264
  10792 1 1 262 10793 1 1 260 10794 1 1 29B 10795 1 1 127 10796 1 1 29C 10797 1 1 267 10798 1 1
  284 10799 2 1 2AA 1079B 1 1 26C 1079C 1 1 1DF04 1079D 1 1 A78E 1079E 1 1 26E 1079F 1 1 1DF05
  107A0 1 1 28E 107A1 1 1 1DF06 107A2 1 1 F8 107A3 2 1 276 107A5 1 1 71 107A6 1 1 27A 107A7 1 1
  1DF08 107A8 2 1 27D 107AA 1 1 280 107AB 1 1 2A8 107AC 1 1 2A6 107AD 1 1 AB67 107AE 1 1 2A7
  107AF 1 1 288 107B0 1 1 2C71 107B2 1 1 28F 107B3 2 1 2A1 107B5 1 1 298 107B6 3 1 1C0 107B9 1
  1 1DF0A 107BA 1 1 1DF1E 1CCD6 1A 1 41 1CCF0 A 1 30 1D400 1A 1 41 1D41A 1A 1 61 1D434 1A 1 41
  1D44E 7 1 61 1D456 12 1 69 1D468 1A 1 41 1D482 1A 1 61 1D49C 1 1 41 1D49E 2 1 43 1D4A2 1 1 47
  1D4A5 2 1 4A 1D4A9 4 1 4E 1D4AE 8 1 53 1D4B6 4 1 61 1D4BB 1 1 66 1D4BD 7 1 68 1D4C5 B 1 70
  1D4D0 1A 1 41 1D4EA 1A 1 61 1D504 2 1 41 1D507 4 1 44 1D50D 8 1 4A 1D516 7 1 53 1D51E 1A 1 61
  1D538 2 1 41 1D53B 4 1 44 1D540 5 1 49 1D546 1 1 4F 1D54A 7 1 53 1D552 1A 1 61 1D56C 1A 1 41
  1D586 1A 1 61 1D5A0 1A 1 41 1D5BA 1A 1 61 1D5D4 1A 1 41 1D5EE 1A 1 61 1D608 1A 1 41 1D622 1A
  1 61 1D63C 1A 1 41 1D656 1A 1 61 1D670 1A 1 41 1D68A 1A 1 61 1D6A4 1 1 131 1D6A5 1 1 237
  1D6A8 11 1 391 1D6B9 1 1 398 1D6BA 7 1 3A3 1D6C1 1 1 2207 1D6C2 19 1 3B1 1D6DB 1 1 2202 1D6DC
  1 1 3B5 1D6DD 1 1 3B8 1D6DE 1 1 3BA 1D6DF 1 1 3C6 1D6E0 1 1 3C1 1D6E1 1 1 3C0 1D6E2 11 1 391
  1D6F3 1 1 398 1D6F4 7 1 3A3 1D6FB 1 1 2207 1D6FC 19 1 3B1 1D715 1 1 2202 1D716 1 1 3B5 1D717
  1 1 3B8 1D718 1 1 3BA 1D719 1 1 3C6 1D71A 1 1 3C1 1D71B 1 1 3C0 1D71C 11 1 391 1D72D 1 1 398
  1D72E 7 1 3A3 1D735 1 1 2207 1D736 19 1 3B1 1D74F 1 1 2202 1D750 1 1 3B5 1D751 1 1 3B8 1D752
  1 1 3BA 1D753 1 1 3C6 1D754 1 1 3C1 1D755 1 1 3C0 1D756 11 1 391 1D767 1 1 398 1D768 7 1 3A3
  1D76F 1 1 2207 1D770 19 1 3B1 1D789 1 1 2202 1D78A 1 1 3B5 1D78B 1 1 3B8 1D78C 1 1 3BA 1D78D
  1 1 3C6 1D78E 1 1 3C1 1D78F 1 1 3C0 1D790 11 1 391 1D7A1 1 1 398 1D7A2 7 1 3A3 1D7A9 1 1 2207
  1D7AA 19 1 3B1 1D7C3 1 1 2202 1D7C4 1 1 3B5 1D7C5 1 1 3B8 1D7C6 1 1 3BA 1D7C7 1 1 3C6 1D7C8 1
  1 3C1 1D7C9 1 1 3C0 1D7CA 2 1 3DC 1D7CE A 1 30 1D7D8 A 1 30 1D7E2 A 1 30 1D7EC A 1 30 1D7F6 A
  1 30 1DFCD 1 1 1DF57 1E030 9 1 430 1E039 3 1 43A 1E03C B 1 43E 1E047 1 1 44B 1E048 2 1 44D
  1E04A 1 1 A689 1E04B 1 1 4D9 1E04C 1 1 456 1E04D 1 1 458 1E04E 1 1 4E9 1E04F 1 1 4AF 1E050 1
  1 4CF 1E051 9 1 430 1E05A 2 1 43A 1E05C 2 1 43E 1E05E 1 1 441 1E05F 6 1 443 1E065 2 1 44A
  1E067 1 1 491 1E068 1 1 456 1E069 1 1 455 1E06A 1 1 45F 1E06B 1 1 4AB 1E06C 1 1 A651 1E06D 1
  1 4B1 1EE00 2 1 627 1EE02 1 1 62C 1EE03 1 1 62F 1EE05 1 1 648 1EE06 1 1 632 1EE07 1 1 62D
  1EE08 1 1 637 1EE09 1 1 64A 1EE0A 4 1 643 1EE0E 1 1 633 1EE0F 1 1 639 1EE10 1 1 641 1EE11 1 1
  635 1EE12 1 1 642 1EE13 1 1 631 1EE14 1 1 634 1EE15 2 1 62A 1EE17 1 1 62E 1EE18 1 1 630 1EE19
  1 1 636 1EE1A 1 1 638 1EE1B 1 1 63A 1EE1C 1 1 66E 1EE1D 1 1 6BA 1EE1E 1 1 6A1 1EE1F 1 1 66F
  1EE21 1 1 628 1EE22 1 1 62C 1EE24 1 1 647 1EE27 1 1 62D 1EE29 1 1 64A 1EE2A 4 1 643 1EE2E 1 1
  633 1EE2F 1 1 639 1EE30 1 1 641 1EE31 1 1 635 1EE32 1 1 642 1EE34 1 1 634 1EE35 2 1 62A 1EE37
  1 1 62E 1EE39 1 1 636 1EE3B 1 1 63A 1EE42 1 1 62C 1EE47 1 1 62D 1EE49 1 1 64A 1EE4B 1 1 644
  1EE4D 1 1 646 1EE4E 1 1 633 1EE4F 1 1 639 1EE51 1 1 635 1EE52 1 1 642 1EE54 1 1 634 1EE57 1 1
  62E 1EE59 1 1 636 1EE5B 1 1 63A 1EE5D 1 1 6BA 1EE5F 1 1 66F 1EE61 1 1 628 1EE62 1 1 62C 1EE64
  1 1 647 1EE67 1 1 62D 1EE68 1 1 637 1EE69 1 1 64A 1EE6A 1 1 643 1EE6C 2 1 645 1EE6E 1 1 633
  1EE6F 1 1 639 1EE70 1 1 641 1EE71 1 1 635 1EE72 1 1 642 1EE74 1 1 634 1EE75 2 1 62A 1EE77 1 1
  62E 1EE79 1 1 636 1EE7A 1 1 638 1EE7B 1 1 63A 1EE7C 1 1 66E 1EE7E 1 1 6A1 1EE80 2 1 627 1EE82
  1 1 62C 1EE83 1 1 62F 1EE84 2 1 647 1EE86 1 1 632 1EE87 1 1 62D 1EE88 1 1 637 1EE89 1 1 64A
  1EE8B 3 1 644 1EE8E 1 1 633 1EE8F 1 1 639 1EE90 1 1 641 1EE91 1 1 635 1EE92 1 1 642 1EE93 1 1
  631 1EE94 1 1 634 1EE95 2 1 62A 1EE97 1 1 62E 1EE98 1 1 630 1EE99 1 1 636 1EE9A 1 1 638 1EE9B
  1 1 63A 1EEA1 1 1 628 1EEA2 1 1 62C 1EEA3 1 1 62F 1EEA5 1 1 648 1EEA6 1 1 632 1EEA7 1 1 62D
  1EEA8 1 1 637 1EEA9 1 1 64A 1EEAB 3 1 644 1EEAE 1 1 633 1EEAF 1 1 639 1EEB0 1 1 641 1EEB1 1 1
  635 1EEB2 1 1 642 1EEB3 1 1 631 1EEB4 1 1 634 1EEB5 2 1 62A 1EEB7 1 1 62E 1EEB8 1 1 630 1EEB9
  1 1 636 1EEBA 1 1 638 1EEBB 1 1 63A 1F12B 1 1 43 1F12C 1 1 52 1F130 1A 1 41 1F202 1 1 30B5
  1F210 1 1 624B 1F211 1 1 5B57 1F212 1 1 53CC 1F214 1 1 4E8C 1F215 1 1 591A 1F216 1 1 89E3
  1F217 1 1 5929 1F218 1 1 4EA4 1F219 1 1 6620 1F21A 1 1 7121 1F21B 1 1 6599 1F21C 1 1 524D
  1F21D 1 1 5F8C 1F21E 1 1 518D 1F21F 1 1 65B0 1F220 1 1 521D 1F221 1 1 7D42 1F222 1 1 751F
  1F223 1 1 8CA9 1F224 1 1 58F0 1F225 1 1 5439 1F226 1 1 6F14 1F227 1 1 6295 1F228 1 1 6355
  1F229 1 1 4E00 1F22A 1 1 4E09 1F22B 1 1 904A 1F22C 1 1 5DE6 1F22D 1 1 4E2D 1F22E 1 1 53F3
  1F22F 1 1 6307 1F230 1 1 8D70 1F231 1 1 6253 1F232 1 1 7981 1F233 1 1 7A7A 1F234 1 1 5408
  1F235 1 1 6E80 1F236 1 1 6709 1F237 1 1 6708 1F238 1 1 7533 1F239 1 1 5272 1F23A 1 1 55B6
  1F23B 1 1 914D 1F250 1 1 5F97 1F251 1 1 53EF 1FBF0 A 1 30 2F800 1 1 4E3D 2F801 1 1 4E38 2F802
  1 1 4E41 2F803 1 1 20122 2F804 1 1 4F60 2F805 1 1 4FAE 2F806 1 1 4FBB 2F807 1 1 5002 2F808 1
  1 507A 2F809 1 1 5099 2F80A 1 1 50E7 2F80B 1 1 50CF 2F80C 1 1 349E 2F80D 1 1 2063A 2F80E 1 1
  514D 2F80F 1 1 5154 2F810 1 1 5164 2F811 1 1 5177 2F812 1 1 2051C 2F813 1 1 34B9 2F814 1 1
  5167 2F815 1 1 518D 2F816 1 1 2054B 2F817 1 1 5197 2F818 1 1 51A4 2F819 1 1 4ECC 2F81A 1 1
  51AC 2F81B 1 1 51B5 2F81C 1 1 291DF 2F81D 1 1 51F5 2F81E 1 1 5203 2F81F 1 1 34DF 2F820 1 1
  523B 2F821 1 1 5246 2F822 1 1 5272 2F823 1 1 5277 2F824 1 1 3515 2F825 1 1 52C7 2F826 1 1
  52C9 2F827 1 1 52E4 2F828 1 1 52FA 2F829 2 1 5305 2F82B 1 1 5317 2F82C 1 1 5349 2F82D 1 1
  5351 2F82E 1 1 535A 2F82F 1 1 5373 2F830 1 1 537D 2F831 1 1 537F 2F832 1 1 537F 2F833 1 1
  537F 2F834 1 1 20A2C 2F835 1 1 7070 2F836 1 1 53CA 2F837 1 1 53DF 2F838 1 1 20B63 2F839 1 1
  53EB 2F83A 1 1 53F1 2F83B 1 1 5406 2F83C 1 1 549E 2F83D 1 1 5438 2F83E 1 1 5448 2F83F 1 1
  5468 2F840 1 1 54A2 2F841 1 1 54F6 2F842 1 1 5510 2F843 1 1 5553 2F844 1 1 5563 2F845 1 1
  5584 2F846 1 1 5584 2F847 1 1 5599 2F848 1 1 55AB 2F849 1 1 55B3 2F84A 1 1 55C2 2F84B 1 1
  5716 2F84C 1 1 5606 2F84D 1 1 5717 2F84E 1 1 5651 2F84F 1 1 5674 2F850 1 1 5207 2F851 1 1
  58EE 2F852 1 1 57CE 2F853 1 1 57F4 2F854 1 1 580D 2F855 1 1 578B 2F856 1 1 5832 2F857 1 1
  5831 2F858 1 1 58AC 2F859 1 1 214E4 2F85A 1 1 58F2 2F85B 1 1 58F7 2F85C 1 1 5906 2F85D 1 1
  591A 2F85E 1 1 5922 2F85F 1 1 5962 2F860 1 1 216A8 2F861 1 1 216EA 2F862 1 1 59EC 2F863 1 1
  5A1B 2F864 1 1 5A27 2F865 1 1 59D8 2F866 1 1 5A66 2F867 1 1 36EE 2F868 1 1 36FC 2F869 1 1
  5B08 2F86A 1 1 5B3E 2F86B 1 1 5B3E 2F86C 1 1 219C8 2F86D 1 1 5BC3 2F86E 1 1 5BD8 2F86F 1 1
  5BE7 2F870 1 1 5BF3 2F871 1 1 21B18 2F872 1 1 5BFF 2F873 1 1 5C06 2F874 1 1 5F53 2F875 1 1
  5C22 2F876 1 1 3781 2F877 1 1 5C60 2F878 1 1 5C6E 2F879 1 1 5CC0 2F87A 1 1 5C8D 2F87B 1 1
  21DE4 2F87C 1 1 5D43 2F87D 1 1 21DE6 2F87E 1 1 5D6E 2F87F 1 1 5D6B 2F880 1 1 5D7C 2F881 2 1
  5DE1 2F883 1 1 382F 2F884 1 1 5DFD 2F885 1 1 5E28 2F886 1 1 5E3D 2F887 1 1 5E69 2F888 1 1
  3862 2F889 1 1 22183 2F88A 1 1 387C 2F88B 1 1 5EB0 2F88C 1 1 5EB3 2F88D 1 1 5EB6 2F88E 1 1
  5ECA 2F88F 1 1 2A392 2F890 1 1 5EFE 2F891 1 1 22331 2F892 1 1 22331 2F893 1 1 8201 2F894 1 1
  5F22 2F895 1 1 5F22 2F896 1 1 38C7 2F897 1 1 232B8 2F898 1 1 261DA 2F899 1 1 5F62 2F89A 1 1
  5F6B 2F89B 1 1 38E3 2F89C 1 1 5F9A 2F89D 1 1 5FCD 2F89E 1 1 5FD7 2F89F 1 1 5FF9 2F8A0 1 1
  6081 2F8A1 1 1 393A 2F8A2 1 1 391C 2F8A3 1 1 6094 2F8A4 1 1 226D4 2F8A5 1 1 60C7 2F8A6 1 1
  6148 2F8A7 1 1 614C 2F8A8 1 1 614E 2F8A9 1 1 614C 2F8AA 1 1 617A 2F8AB 1 1 618E 2F8AC 1 1
  61B2 2F8AD 1 1 61A4 2F8AE 1 1 61AF 2F8AF 1 1 61DE 2F8B0 1 1 61F2 2F8B1 1 1 61F6 2F8B2 1 1
  6210 2F8B3 1 1 621B 2F8B4 1 1 625D 2F8B5 1 1 62B1 2F8B6 1 1 62D4 2F8B7 1 1 6350 2F8B8 1 1
  22B0C 2F8B9 1 1 633D 2F8BA 1 1 62FC 2F8BB 1 1 6368 2F8BC 1 1 6383 2F8BD 1 1 63E4 2F8BE 1 1
  22BF1 2F8BF 1 1 6422 2F8C0 1 1 63C5 2F8C1 1 1 63A9 2F8C2 1 1 3A2E 2F8C3 1 1 6469 2F8C4 1 1
  647E 2F8C5 1 1 649D 2F8C6 1 1 6477 2F8C7 1 1 3A6C 2F8C8 1 1 654F 2F8C9 1 1 656C 2F8CA 1 1
  2300A 2F8CB 1 1 65E3 2F8CC 1 1 66F8 2F8CD 1 1 6649 2F8CE 1 1 3B19 2F8CF 1 1 6691 2F8D0 1 1
  3B08 2F8D1 1 1 3AE4 2F8D2 1 1 5192 2F8D3 1 1 5195 2F8D4 1 1 6700 2F8D5 1 1 669C 2F8D6 1 1
  80AD 2F8D7 1 1 43D9 2F8D8 1 1 6717 2F8D9 1 1 671B 2F8DA 1 1 6721 2F8DB 1 1 675E 2F8DC 1 1
  6753 2F8DD 1 1 233C3 2F8DE 1 1 3B49 2F8DF 1 1 67FA 2F8E0 1 1 6785 2F8E1 1 1 6852 2F8E2 1 1
  6885 2F8E3 1 1 2346D 2F8E4 1 1 688E 2F8E5 1 1 681F 2F8E6 1 1 6914 2F8E7 1 1 3B9D 2F8E8 1 1
  6942 2F8E9 1 1 69A3 2F8EA 1 1 69EA 2F8EB 1 1 6AA8 2F8EC 1 1 236A3 2F8ED 1 1 6ADB 2F8EE 1 1
  3C18 2F8EF 1 1 6B21 2F8F0 1 1 238A7 2F8F1 1 1 6B54 2F8F2 1 1 3C4E 2F8F3 1 1 6B72 2F8F4 1 1
  6B9F 2F8F5 2 1 6BBA 2F8F7 1 1 23A8D 2F8F8 1 1 21D0B 2F8F9 1 1 23AFA 2F8FA 1 1 6C4E 2F8FB 1 1
  23CBC 2F8FC 1 1 6CBF 2F8FD 1 1 6CCD 2F8FE 1 1 6C67 2F8FF 1 1 6D16 2F900 1 1 6D3E 2F901 1 1
  6D77 2F902 1 1 6D41 2F903 1 1 6D69 2F904 1 1 6D78 2F905 1 1 6D85 2F906 1 1 23D1E 2F907 1 1
  6D34 2F908 1 1 6E2F 2F909 1 1 6E6E 2F90A 1 1 3D33 2F90B 1 1 6ECB 2F90C 1 1 6EC7 2F90D 1 1
  23ED1 2F90E 1 1 6DF9 2F90F 1 1 6F6E 2F910 1 1 23F5E 2F911 1 1 23F8E 2F912 1 1 6FC6 2F913 1 1
  7039 2F914 1 1 701E 2F915 1 1 701B 2F916 1 1 3D96 2F917 1 1 704A 2F918 1 1 707D 2F919 1 1
  7077 2F91A 1 1 70AD 2F91B 1 1 20525 2F91C 1 1 7145 2F91D 1 1 24263 2F91E 1 1 719C 2F91F 1 1
  243AB 2F920 1 1 7228 2F921 1 1 7235 2F922 1 1 7250 2F923 1 1 24608 2F924 1 1 7280 2F925 1 1
  7295 2F926 1 1 24735 2F927 1 1 24814 2F928 1 1 737A 2F929 1 1 738B 2F92A 1 1 3EAC 2F92B 1 1
  73A5 2F92C 1 1 3EB8 2F92D 1 1 3EB8 2F92E 1 1 7447 2F92F 1 1 745C 2F930 1 1 7471 2F931 1 1
  7485 2F932 1 1 74CA 2F933 1 1 3F1B 2F934 1 1 7524 2F935 1 1 24C36 2F936 1 1 753E 2F937 1 1
  24C92 2F938 1 1 7570 2F939 1 1 2219F 2F93A 1 1 7610 2F93B 1 1 24FA1 2F93C 1 1 24FB8 2F93D 1 1
  25044 2F93E 1 1 3FFC 2F93F 1 1 4008 2F940 1 1 76F4 2F941 1 1 250F3 2F942 1 1 250F2 2F943 1 1
  25119 2F944 1 1 25133 2F945 2 1 771E 2F947 1 1 771F 2F948 1 1 774A 2F949 1 1 4039 2F94A 1 1
  778B 2F94B 1 1 4046 2F94C 1 1 4096 2F94D 1 1 2541D 2F94E 1 1 784E 2F94F 1 1 788C 2F950 1 1
  78CC 2F951 1 1 40E3 2F952 1 1 25626 2F953 1 1 7956 2F954 1 1 2569A 2F955 1 1 256C5 2F956 1 1
  798F 2F957 1 1 79EB 2F958 1 1 412F 2F959 1 1 7A40 2F95A 1 1 7A4A 2F95B 1 1 7A4F 2F95C 1 1
  2597C 2F95D 1 1 25AA7 2F95E 1 1 25AA7 2F95F 1 1 7AEE 2F960 1 1 4202 2F961 1 1 25BAB 2F962 1 1
  7BC6 2F963 1 1 7BC9 2F964 1 1 4227 2F965 1 1 25C80 2F966 1 1 7CD2 2F967 1 1 42A0 2F968 1 1
  7CE8 2F969 1 1 7CE3 2F96A 1 1 7D00 2F96B 1 1 25F86 2F96C 1 1 7D63 2F96D 1 1 4301 2F96E 1 1
  7DC7 2F96F 1 1 7E02 2F970 1 1 7E45 2F971 1 1 4334 2F972 1 1 26228 2F973 1 1 26247 2F974 1 1
  4359 2F975 1 1 262D9 2F976 1 1 7F7A 2F977 1 1 2633E 2F978 1 1 7F95 2F979 1 1 7FFA 2F97A 1 1
  8005 2F97B 1 1 264DA 2F97C 1 1 26523 2F97D 1 1 8060 2F97E 1 1 265A8 2F97F 1 1 8070 2F980 1 1
  2335F 2F981 1 1 43D5 2F982 1 1 80B2 2F983 1 1 8103 2F984 1 1 440B 2F985 1 1 813E 2F986 1 1
  5AB5 2F987 1 1 267A7 2F988 1 1 267B5 2F989 1 1 23393 2F98A 1 1 2339C 2F98B 1 1 8201 2F98C 1 1
  8204 2F98D 1 1 8F9E 2F98E 1 1 446B 2F98F 1 1 8291 2F990 1 1 828B 2F991 1 1 829D 2F992 1 1
  52B3 2F993 1 1 82B1 2F994 1 1 82B3 2F995 1 1 82BD 2F996 1 1 82E6 2F997 1 1 26B3C 2F998 1 1
  82E5 2F999 1 1 831D 2F99A 1 1 8363 2F99B 1 1 83AD 2F99C 1 1 8323 2F99D 1 1 83BD 2F99E 1 1
  83E7 2F99F 1 1 8457 2F9A0 1 1 8353 2F9A1 1 1 83CA 2F9A2 1 1 83CC 2F9A3 1 1 83DC 2F9A4 1 1
  26C36 2F9A5 1 1 26D6B 2F9A6 1 1 26CD5 2F9A7 1 1 452B 2F9A8 1 1 84F1 2F9A9 1 1 84F3 2F9AA 1 1
  8516 2F9AB 1 1 273CA 2F9AC 1 1 8564 2F9AD 1 1 26F2C 2F9AE 1 1 455D 2F9AF 1 1 4561 2F9B0 1 1
  26FB1 2F9B1 1 1 270D2 2F9B2 1 1 456B 2F9B3 1 1 8650 2F9B4 1 1 865C 2F9B5 1 1 8667 2F9B6 1 1
  8669 2F9B7 1 1 86A9 2F9B8 1 1 8688 2F9B9 1 1 870E 2F9BA 1 1 86E2 2F9BB 1 1 8779 2F9BC 1 1
  8728 2F9BD 1 1 876B 2F9BE 1 1 8786 2F9BF 1 1 45D7 2F9C0 1 1 87E1 2F9C1 1 1 8801 2F9C2 1 1
  45F9 2F9C3 1 1 8860 2F9C4 1 1 8863 2F9C5 1 1 27667 2F9C6 1 1 88D7 2F9C7 1 1 88DE 2F9C8 1 1
  4635 2F9C9 1 1 88FA 2F9CA 1 1 34BB 2F9CB 1 1 278AE 2F9CC 1 1 27966 2F9CD 1 1 46BE 2F9CE 1 1
  46C7 2F9CF 1 1 8AA0 2F9D0 1 1 8AED 2F9D1 1 1 8B8A 2F9D2 1 1 8C55 2F9D3 1 1 27CA8 2F9D4 1 1
  8CAB 2F9D5 1 1 8CC1 2F9D6 1 1 8D1B 2F9D7 1 1 8D77 2F9D8 1 1 27F2F 2F9D9 1 1 20804 2F9DA 1 1
  8DCB 2F9DB 1 1 8DBC 2F9DC 1 1 8DF0 2F9DD 1 1 208DE 2F9DE 1 1 8ED4 2F9DF 1 1 8F38 2F9E0 1 1
  285D2 2F9E1 1 1 285ED 2F9E2 1 1 9094 2F9E3 1 1 90F1 2F9E4 1 1 9111 2F9E5 1 1 2872E 2F9E6 1 1
  911B 2F9E7 1 1 9238 2F9E8 2 1 92D7 2F9EA 1 1 927C 2F9EB 1 1 93F9 2F9EC 1 1 9415 2F9ED 1 1
  28BFA 2F9EE 1 1 958B 2F9EF 1 1 4995 2F9F0 1 1 95B7 2F9F1 1 1 28D77 2F9F2 1 1 49E6 2F9F3 1 1
  96C3 2F9F4 1 1 5DB2 2F9F5 1 1 9723 2F9F6 1 1 29145 2F9F7 1 1 2921A 2F9F8 1 1 4A6E 2F9F9 1 1
  4A76 2F9FA 1 1 97E0 2F9FB 1 1 2940A 2F9FC 1 1 4AB2 2F9FD 1 1 29496 2F9FE 1 1 980B 2F9FF 1 1
  980B 2FA00 1 1 9829 2FA01 1 1 295B6 2FA02 1 1 98E2 2FA03 1 1 4B33 2FA04 1 1 9929 2FA05 1 1
  99A7 2FA06 1 1 99C2 2FA07 1 1 99FE 2FA08 1 1 4BCE 2FA09 1 1 29B30 2FA0A 1 1 9B12 2FA0B 1 1
  9C40 2FA0C 1 1 9CFD 2FA0D 1 1 4CCE 2FA0E 1 1 4CED 2FA0F 1 1 9D67 2FA10 1 1 2A0CE 2FA11 1 1
  4CF8 2FA12 1 1 2A105 2FA13 1 1 2A20E 2FA14 1 1 2A291 2FA15 1 1 9EBB 2FA16 1 1 4D56 2FA17 1 1
  9EF9 2FA18 1 1 9EFE 2FA19 1 1 9F05 2FA1A 1 1 9F0F 2FA1B 1 1 9F16 2FA1C 1 1 9F3B 2FA1D 1 1
  2A600"

/-- Decompositions into a single character. -/
def singleMap : CodeMap := CodeMap.ofTable singleTable

def sequenceTable : String :=
  "A8 2 20 308 AF 2 20 304 B4 2 20 301 B8 2 20 327 BC 3 31 2044 34 BD 3 31 2044 32 BE 3 33 2044
  34 C0 2 41 300 C1 2 41 301 C2 2 41 302 C3 2 41 303 C4 2 41 308 C5 2 41 30A C7 2 43 327 C8 2
  45 300 C9 2 45 301 CA 2 45 302 CB 2 45 308 CC 2 49 300 CD 2 49 301 CE 2 49 302 CF 2 49 308 D1
  2 4E 303 D2 2 4F 300 D3 2 4F 301 D4 2 4F 302 D5 2 4F 303 D6 2 4F 308 D9 2 55 300 DA 2 55 301
  DB 2 55 302 DC 2 55 308 DD 2 59 301 E0 2 61 300 E1 2 61 301 E2 2 61 302 E3 2 61 303 E4 2 61
  308 E5 2 61 30A E7 2 63 327 E8 2 65 300 E9 2 65 301 EA 2 65 302 EB 2 65 308 EC 2 69 300 ED 2
  69 301 EE 2 69 302 EF 2 69 308 F1 2 6E 303 F2 2 6F 300 F3 2 6F 301 F4 2 6F 302 F5 2 6F 303 F6
  2 6F 308 F9 2 75 300 FA 2 75 301 FB 2 75 302 FC 2 75 308 FD 2 79 301 FF 2 79 308 100 2 41 304
  101 2 61 304 102 2 41 306 103 2 61 306 104 2 41 328 105 2 61 328 106 2 43 301 107 2 63 301
  108 2 43 302 109 2 63 302 10A 2 43 307 10B 2 63 307 10C 2 43 30C 10D 2 63 30C 10E 2 44 30C
  10F 2 64 30C 112 2 45 304 113 2 65 304 114 2 45 306 115 2 65 306 116 2 45 307 117 2 65 307
  118 2 45 328 119 2 65 328 11A 2 45 30C 11B 2 65 30C 11C 2 47 302 11D 2 67 302 11E 2 47 306
  11F 2 67 306 120 2 47 307 121 2 67 307 122 2 47 327 123 2 67 327 124 2 48 302 125 2 68 302
  128 2 49 303 129 2 69 303 12A 2 49 304 12B 2 69 304 12C 2 49 306 12D 2 69 306 12E 2 49 328
  12F 2 69 328 130 2 49 307 132 2 49 4A 133 2 69 6A 134 2 4A 302 135 2 6A 302 136 2 4B 327 137
  2 6B 327 139 2 4C 301 13A 2 6C 301 13B 2 4C 327 13C 2 6C 327 13D 2 4C 30C 13E 2 6C 30C 13F 2
  4C B7 140 2 6C B7 143 2 4E 301 144 2 6E 301 145 2 4E 327 146 2 6E 327 147 2 4E 30C 148 2 6E
  30C 149 2 2BC 6E 14C 2 4F 304 14D 2 6F 304 14E 2 4F 306 14F 2 6F 306 150 2 4F 30B 151 2 6F
  30B 154 2 52 301 155 2 72 301 156 2 52 327 157 2 72 327 158 2 52 30C 159 2 72 30C 15A 2 53
  301 15B 2 73 301 15C 2 53 302 15D 2 73 302 15E 2 53 327 15F 2 73 327 160 2 53 30C 161 2 73
  30C 162 2 54 327 163 2 74 327 164 2 54 30C 165 2 74 30C 168 2 55 303 169 2 75 303 16A 2 55
  304 16B 2 75 304 16C 2 55 306 16D 2 75 306 16E 2 55 30A 16F 2 75 30A 170 2 55 30B 171 2 75
  30B 172 2 55 328 173 2 75 328 174 2 57 302 175 2 77 302 176 2 59 302 177 2 79 302 178 2 59
  308 179 2 5A 301 17A 2 7A 301 17B 2 5A 307 17C 2 7A 307 17D 2 5A 30C 17E 2 7A 30C 1A0 2 4F
  31B 1A1 2 6F 31B 1AF 2 55 31B 1B0 2 75 31B 1C4 3 44 5A 30C 1C5 3 44 7A 30C 1C6 3 64 7A 30C
  1C7 2 4C 4A 1C8 2 4C 6A 1C9 2 6C 6A 1CA 2 4E 4A 1CB 2 4E 6A 1CC 2 6E 6A 1CD 2 41 30C 1CE 2 61
  30C 1CF 2 49 30C 1D0 2 69 30C 1D1 2 4F 30C 1D2 2 6F 30C 1D3 2 55 30C 1D4 2 75 30C 1D5 3 55
  308 304 1D6 3 75 308 304 1D7 3 55 308 301 1D8 3 75 308 301 1D9 3 55 308 30C 1DA 3 75 308 30C
  1DB 3 55 308 300 1DC 3 75 308 300 1DE 3 41 308 304 1DF 3 61 308 304 1E0 3 41 307 304 1E1 3 61
  307 304 1E2 2 C6 304 1E3 2 E6 304 1E6 2 47 30C 1E7 2 67 30C 1E8 2 4B 30C 1E9 2 6B 30C 1EA 2
  4F 328 1EB 2 6F 328 1EC 3 4F 328 304 1ED 3 6F 328 304 1EE 2 1B7 30C 1EF 2 292 30C 1F0 2 6A
  30C 1F1 2 44 5A 1F2 2 44 7A 1F3 2 64 7A 1F4 2 47 301 1F5 2 67 301 1F8 2 4E 300 1F9 2 6E 300
  1FA 3 41 30A 301 1FB 3 61 30A 301 1FC 2 C6 301 1FD 2 E6 301 1FE 2 D8 301 1FF 2 F8 301 200 2
  41 30F 201 2 61 30F 202 2 41 311 203 2 61 311 204 2 45 30F 205 2 65 30F 206 2 45 311 207 2 65
  311 208 2 49 30F 209 2 69 30F 20A 2 49 311 20B 2 69 311 20C 2 4F 30F 20D 2 6F 30F 20E 2 4F
  311 20F 2 6F 311 210 2 52 30F 211 2 72 30F 212 2 52 311 213 2 72 311 214 2 55 30F 215 2 75
  30F 216 2 55 311 217 2 75 311 218 2 53 326 219 2 73 326 21A 2 54 326 21B 2 74 326 21E 2 48
  30C 21F 2 68 30C 226 2 41 307 227 2 61 307 228 2 45 327 229 2 65 327 22A 3 4F 308 304 22B 3
  6F 308 304 22C 3 4F 303 304 22D 3 6F 303 304 22E 2 4F 307 22F 2 6F 307 230 3 4F 307 304 231 3
  6F 307 304 232 2 59 304 233 2 79 304 2D8 2 20 306 2D9 2 20 307 2DA 2 20 30A 2DB 2 20 328 2DC
  2 20 303 2DD 2 20 30B 344 2 308 301 37A 2 20 345 384 2 20 301 385 3 20 308 301 386 2 391 301
  388 2 395 301 389 2 397 301 38A 2 399 301 38C 2 39F 301 38E 2 3A5 301 38F 2 3A9 301 390 3 3B9
  308 301 3AA 2 399 308 3AB 2 3A5 308 3AC 2 3B1 301 3AD 2 3B5 301 3AE 2 3B7 301 3AF 2 3B9 301
  3B0 3 3C5 308 301 3CA 2 3B9 308 3CB 2 3C5 308 3CC 2 3BF 301 3CD 2 3C5 301 3CE 2 3C9 301 3D3 2
  3A5 301 3D4 2 3A5 308 400 2 415 300 401 2 415 308 403 2 413 301 407 2 406 308 40C 2 41A 301
  40D 2 418 300 40E 2 423 306 419 2 418 306 439 2 438 306 450 2 435 300 451 2 435 308 453 2 433
  301 457 2 456 308 45C 2 43A 301 45D 2 438 300 45E 2 443 306 476 2 474 30F 477 2 475 30F 4C1 2
  416 306 4C2 2 436 306 4D0 2 410 306 4D1 2 430 306 4D2 2 410 308 4D3 2 430 308 4D6 2 415 306
  4D7 2 435 306 4DA 2 4D8 308 4DB 2 4D9 308 4DC 2 416 308 4DD 2 436 308 4DE 2 417 308 4DF 2 437
  308 4E2 2 418 304 4E3 2 438 304 4E4 2 418 308 4E5 2 438 308 4E6 2 41E 308 4E7 2 43E 308 4EA 2
  4E8 308 4EB 2 4E9 308 4EC 2 42D 308 4ED 2 44D 308 4EE 2 423 304 4EF 2 443 304 4F0 2 423 308
  4F1 2 443 308 4F2 2 423 30B 4F3 2 443 30B 4F4 2 427 308 4F5 2 447 308 4F8 2 42B 308 4F9 2 44B
  308 587 2 565 582 622 2 627 653 623 2 627 654 624 2 648 654 625 2 627 655 626 2 64A 654 675 2
  627 674 676 2 648 674 677 2 6C7 674 678 2 64A 674 6C0 2 6D5 654 6C2 2 6C1 654 6D3 2 6D2 654
  929 2 928 93C 931 2 930 93C 934 2 933 93C 958 2 915 93C 959 2 916 93C 95A 2 917 93C 95B 2 91C
  93C 95C 2 921 93C 95D 2 922 93C 95E 2 92B 93C 95F 2 92F 93C 9CB 2 9C7 9BE 9CC 2 9C7 9D7 9DC 2
  9A1 9BC 9DD 2 9A2 9BC 9DF 2 9AF 9BC A33 2 A32 A3C A36 2 A38 A3C A59 2 A16 A3C A5A 2 A17 A3C
  A5B 2 A1C A3C A5E 2 A2B A3C B48 2 B47 B56 B4B 2 B47 B3E B4C 2 B47 B57 B5C 2 B21 B3C B5D 2 B22
  B3C B94 2 B92 BD7 BCA 2 BC6 BBE BCB 2 BC7 BBE BCC 2 BC6 BD7 C48 2 C46 C56 CC0 2 CBF CD5 CC7 2
  CC6 CD5 CC8 2 CC6 CD6 CCA 2 CC6 CC2 CCB 3 CC6 CC2 CD5 D4A 2 D46 D3E D4B 2 D47 D3E D4C 2 D46
  D57 DDA 2 DD9 DCA DDC 2 DD9 DCF DDD 3 DD9 DCF DCA DDE 2 DD9 DDF E33 2 E4D E32 EB3 2 ECD EB2
  EDC 2 EAB E99 EDD 2 EAB EA1 F43 2 F42 FB7 F4D 2 F4C FB7 F52 2 F51 FB7 F57 2 F56 FB7 F5C 2 F5B
  FB7 F69 2 F40 FB5 F73 2 F71 F72 F75 2 F71 F74 F76 2 FB2 F80 F77 3 FB2 F71 F80 F78 2 FB3 F80
  F79 3 FB3 F71 F80 F81 2 F71 F80 F93 2 F92 FB7 F9D 2 F9C FB7 FA2 2 FA1 FB7 FA7 2 FA6 FB7 FAC 2
  FAB FB7 FB9 2 F90 FB5 1026 2 1025 102E 1B06 2 1B05 1B35 1B08 2 1B07 1B35 1B0A 2 1B09 1B35
  1B0C 2 1B0B 1B35 1B0E 2 1B0D 1B35 1B12 2 1B11 1B35 1B3B 2 1B3A 1B35 1B3D 2 1B3C 1B35 1B40 2
  1B3E 1B35 1B41 2 1B3F 1B35 1B43 2 1B42 1B35 1E00 2 41 325 1E01 2 61 325 1E02 2 42 307 1E03 2
  62 307 1E04 2 42 323 1E05 2 62 323 1E06 2 42 331 1E07 2 62 331 1E08 3 43 327 301 1E09 3 63
  327 301 1E0A 2 44 307 1E0B 2 64 307 1E0C 2 44 323 1E0D 2 64 323 1E0E 2 44 331 1E0F 2 64 331
  1E10 2 44 327 1E11 2 64 327 1E12 2 44 32D 1E13 2 64 32D 1E14 3 45 304 300 1E15 3 65 304 300
  1E16 3 45 304 301 1E17 3 65 304 301 1E18 2 45 32D 1E19 2 65 32D 1E1A 2 45 330 1E1B 2 65 330
  1E1C 3 45 327 306 1E1D 3 65 327 306 1E1E 2 46 307 1E1F 2 66 307 1E20 2 47 304 1E21 2 67 304
  1E22 2 48 307 1E23 2 68 307 1E24 2 48 323 1E25 2 68 323 1E26 2 48 308 1E27 2 68 308 1E28 2 48
  327 1E29 2 68 327 1E2A 2 48 32E 1E2B 2 68 32E 1E2C 2 49 330 1E2D 2 69 330 1E2E 3 49 308 301
  1E2F 3 69 308 301 1E30 2 4B 301 1E31 2 6B 301 1E32 2 4B 323 1E33 2 6B 323 1E34 2 4B 331 1E35
  2 6B 331 1E36 2 4C 323 1E37 2 6C 323 1E38 3 4C 323 304 1E39 3 6C 323 304 1E3A 2 4C 331 1E3B 2
  6C 331 1E3C 2 4C 32D 1E3D 2 6C 32D 1E3E 2 4D 301 1E3F 2 6D 301 1E40 2 4D 307 1E41 2 6D 307
  1E42 2 4D 323 1E43 2 6D 323 1E44 2 4E 307 1E45 2 6E 307 1E46 2 4E 323 1E47 2 6E 323 1E48 2 4E
  331 1E49 2 6E 331 1E4A 2 4E 32D 1E4B 2 6E 32D 1E4C 3 4F 303 301 1E4D 3 6F 303 301 1E4E 3 4F
  303 308 1E4F 3 6F 303 308 1E50 3 4F 304 300 1E51 3 6F 304 300 1E52 3 4F 304 301 1E53 3 6F 304
  301 1E54 2 50 301 1E55 2 70 301 1E56 2 50 307 1E57 2 70 307 1E58 2 52 307 1E59 2 72 307 1E5A
  2 52 323 1E5B 2 72 323 1E5C 3 52 323 304 1E5D 3 72 323 304 1E5E 2 52 331 1E5F 2 72 331 1E60 2
  53 307 1E61 2 73 307 1E62 2 53 323 1E63 2 73 323 1E64 3 53 301 307 1E65 3 73 301 307 1E66 3
  53 30C 307 1E67 3 73 30C 307 1E68 3 53 323 307 1E69 3 73 323 307 1E6A 2 54 307 1E6B 2 74 307
  1E6C 2 54 323 1E6D 2 74 323 1E6E 2 54 331 1E6F 2 74 331 1E70 2 54 32D 1E71 2 74 32D 1E72 2 55
  324 1E73 2 75 324 1E74 2 55 330 1E75 2 75 330 1E76 2 55 32D 1E77 2 75 32D 1E78 3 55 303 301
  1E79 3 75 303 301 1E7A 3 55 304 308 1E7B 3 75 304 308 1E7C 2 56 303 1E7D 2 76 303 1E7E 2 56
  323 1E7F 2 76 323 1E80 2 57 300 1E81 2 77 300 1E82 2 57 301 1E83 2 77 301 1E84 2 57 308 1E85
  2 77 308 1E86 2 57 307 1E87 2 77 307 1E88 2 57 323 1E89 2 77 323 1E8A 2 58 307 1E8B 2 78 307
  1E8C 2 58 308 1E8D 2 78 308 1E8E 2 59 307 1E8F 2 79 307 1E90 2 5A 302 1E91 2 7A 302 1E92 2 5A
  323 1E93 2 7A 323 1E94 2 5A 331 1E95 2 7A 331 1E96 2 68 331 1E97 2 74 308 1E98 2 77 30A 1E99
  2 79 30A 1E9A 2 61 2BE 1E9B 2 73 307 1EA0 2 41 323 1EA1 2 61 323 1EA2 2 41 309 1EA3 2 61 309
  1EA4 3 41 302 301 1EA5 3 61 302 301 1EA6 3 41 302 300 1EA7 3 61 302 300 1EA8 3 41 302 309
  1EA9 3 61 302 309 1EAA 3 41 302 303 1EAB 3 61 302 303 1EAC 3 41 323 302 1EAD 3 61 323 302
  1EAE 3 41 306 301 1EAF 3 61 306 301 1EB0 3 41 306 300 1EB1 3 61 306 300 1EB2 3 41 306 309
  1EB3 3 61 306 309 1EB4 3 41 306 303 1EB5 3 61 306 303 1EB6 3 41 323 306 1EB7 3 61 323 306
  1EB8 2 45 323 1EB9 2 65 323 1EBA 2 45 309 1EBB 2 65 309 1EBC 2 45 303 1EBD 2 65 303 1EBE 3 45
  302 301 1EBF 3 65 302 301 1EC0 3 45 302 300 1EC1 3 65 302 300 1EC2 3 45 302 309 1EC3 3 65 302
  309 1EC4 3 45 302 303 1EC5 3 65 302 303 1EC6 3 45 323 302 1EC7 3 65 323 302 1EC8 2 49 309
  1EC9 2 69 309 1ECA 2 49 323 1ECB 2 69 323 1ECC 2 4F 323 1ECD 2 6F 323 1ECE 2 4F 309 1ECF 2 6F
  309 1ED0 3 4F 302 301 1ED1 3 6F 302 301 1ED2 3 4F 302 300 1ED3 3 6F 302 300 1ED4 3 4F 302 309
  1ED5 3 6F 302 309 1ED6 3 4F 302 303 1ED7 3 6F 302 303 1ED8 3 4F 323 302 1ED9 3 6F 323 302
  1EDA 3 4F 31B 301 1EDB 3 6F 31B 301 1EDC 3 4F 31B 300 1EDD 3 6F 31B 300 1EDE 3 4F 31B 309
  1EDF 3 6F 31B 309 1EE0 3 4F 31B 303 1EE1 3 6F 31B 303 1EE2 3 4F 31B 323 1EE3 3 6F 31B 323
  1EE4 2 55 323 1EE5 2 75 323 1EE6 2 55 309 1EE7 2 75 309 1EE8 3 55 31B 301 1EE9 3 75 31B 301
  1EEA 3 55 31B 300 1EEB 3 75 31B 300 1EEC 3 55 31B 309 1EED 3 75 31B 309 1EEE 3 55 31B 303
  1EEF 3 75 31B 303 1EF0 3 55 31B 323 1EF1 3 75 31B 323 1EF2 2 59 300 1EF3 2 79 300 1EF4 2 59
  323 1EF5 2 79 323 1EF6 2 59 309 1EF7 2 79 309 1EF8 2 59 303 1EF9 2 79 303 1F00 2 3B1 313 1F01
  2 3B1 314 1F02 3 3B1 313 300 1F03 3 3B1 314 300 1F04 3 3B1 313 301 1F05 3 3B1 314 301 1F06 3
  3B1 313 342 1F07 3 3B1 314 342 1F08 2 391 313 1F09 2 391 314 1F0A 3 391 313 300 1F0B 3 391
  314 300 1F0C 3 391 313 301 1F0D 3 391 314 301 1F0E 3 391 313 342 1F0F 3 391 314 342 1F10 2
  3B5 313 1F11 2 3B5 314 1F12 3 3B5 313 300 1F13 3 3B5 314 300 1F14 3 3B5 313 301 1F15 3 3B5
  314 301 1F18 2 395 313 1F19 2 395 314 1F1A 3 395 313 300 1F1B 3 395 314 300 1F1C 3 395 313
  301 1F1D 3 395 314 301 1F20 2 3B7 313 1F21 2 3B7 314 1F22 3 3B7 313 300 1F23 3 3B7 314 300
  1F24 3 3B7 313 301 1F25 3 3B7 314 301 1F26 3 3B7 313 342 1F27 3 3B7 314 342 1F28 2 397 313
  1F29 2 397 314 1F2A 3 397 313 300 1F2B 3 397 314 300 1F2C 3 397 313 301 1F2D 3 397 314 301
  1F2E 3 397 313 342 1F2F 3 397 314 342 1F30 2 3B9 313 1F31 2 3B9 314 1F32 3 3B9 313 300 1F33 3
  3B9 314 300 1F34 3 3B9 313 301 1F35 3 3B9 314 301 1F36 3 3B9 313 342 1F37 3 3B9 314 342 1F38
  2 399 313 1F39 2 399 314 1F3A 3 399 313 300 1F3B 3 399 314 300 1F3C 3 399 313 301 1F3D 3 399
  314 301 1F3E 3 399 313 342 1F3F 3 399 314 342 1F40 2 3BF 313 1F41 2 3BF 314 1F42 3 3BF 313
  300 1F43 3 3BF 314 300 1F44 3 3BF 313 301 1F45 3 3BF 314 301 1F48 2 39F 313 1F49 2 39F 314
  1F4A 3 39F 313 300 1F4B 3 39F 314 300 1F4C 3 39F 313 301 1F4D 3 39F 314 301 1F50 2 3C5 313
  1F51 2 3C5 314 1F52 3 3C5 313 300 1F53 3 3C5 314 300 1F54 3 3C5 313 301 1F55 3 3C5 314 301
  1F56 3 3C5 313 342 1F57 3 3C5 314 342 1F59 2 3A5 314 1F5B 3 3A5 314 300 1F5D 3 3A5 314 301
  1F5F 3 3A5 314 342 1F60 2 3C9 313 1F61 2 3C9 314 1F62 3 3C9 313 300 1F63 3 3C9 314 300 1F64 3
  3C9 313 301 1F65 3 3C9 314 301 1F66 3 3C9 313 342 1F67 3 3C9 314 342 1F68 2 3A9 313 1F69 2
  3A9 314 1F6A 3 3A9 313 300 1F6B 3 3A9 314 300 1F6C 3 3A9 313 301 1F6D 3 3A9 314 301 1F6E 3
  3A9 313 342 1F6F 3 3A9 314 342 1F70 2 3B1 300 1F71 2 3B1 301 1F72 2 3B5 300 1F73 2 3B5 301
  1F74 2 3B7 300 1F75 2 3B7 301 1F76 2 3B9 300 1F77 2 3B9 301 1F78 2 3BF 300 1F79 2 3BF 301
  1F7A 2 3C5 300 1F7B 2 3C5 301 1F7C 2 3C9 300 1F7D 2 3C9 301 1F80 3 3B1 313 345 1F81 3 3B1 314
  345 1F82 4 3B1 313 300 345 1F83 4 3B1 314 300 345 1F84 4 3B1 313 301 345 1F85 4 3B1 314 301
  345 1F86 4 3B1 313 342 345 1F87 4 3B1 314 342 345 1F88 3 391 313 345 1F89 3 391 314 345 1F8A
  4 391 313 300 345 1F8B 4 391 314 300 345 1F8C 4 391 313 301 345 1F8D 4 391 314 301 345 1F8E 4
  391 313 342 345 1F8F 4 391 314 342 345 1F90 3 3B7 313 345 1F91 3 3B7 314 345 1F92 4 3B7 313
  300 345 1F93 4 3B7 314 300 345 1F94 4 3B7 313 301 345 1F95 4 3B7 314 301 345 1F96 4 3B7 313
  342 345 1F97 4 3B7 314 342 345 1F98 3 397 313 345 1F99 3 397 314 345 1F9A 4 397 313 300 345
  1F9B 4 397 314 300 345 1F9C 4 397 313 301 345 1F9D 4 397 314 301 345 1F9E 4 397 313 342 345
  1F9F 4 397 314 342 345 1FA0 3 3C9 313 345 1FA1 3 3C9 314 345 1FA2 4 3C9 313 300 345 1FA3 4
  3C9 314 300 345 1FA4 4 3C9 313 301 345 1FA5 4 3C9 314 301 345 1FA6 4 3C9 313 342 345 1FA7 4
  3C9 314 342 345 1FA8 3 3A9 313 345 1FA9 3 3A9 314 345 1FAA 4 3A9 313 300 345 1FAB 4 3A9 314
  300 345 1FAC 4 3A9 313 301 345 1FAD 4 3A9 314 301 345 1FAE 4 3A9 313 342 345 1FAF 4 3A9 314
  342 345 1FB0 2 3B1 306 1FB1 2 3B1 304 1FB2 3 3B1 300 345 1FB3 2 3B1 345 1FB4 3 3B1 301 345
  1FB6 2 3B1 342 1FB7 3 3B1 342 345 1FB8 2 391 306 1FB9 2 391 304 1FBA 2 391 300 1FBB 2 391 301
  1FBC 2 391 345 1FBD 2 20 313 1FBF 2 20 313 1FC0 2 20 342 1FC1 3 20 308 342 1FC2 3 3B7 300 345
  1FC3 2 3B7 345 1FC4 3 3B7 301 345 1FC6 2 3B7 342 1FC7 3 3B7 342 345 1FC8 2 395 300 1FC9 2 395
  301 1FCA 2 397 300 1FCB 2 397 301 1FCC 2 397 345 1FCD 3 20 313 300 1FCE 3 20 313 301 1FCF 3
  20 313 342 1FD0 2 3B9 306 1FD1 2 3B9 304 1FD2 3 3B9 308 300 1FD3 3 3B9 308 301 1FD6 2 3B9 342
  1FD7 3 3B9 308 342 1FD8 2 399 306 1FD9 2 399 304 1FDA 2 399 300 1FDB 2 399 301 1FDD 3 20 314
  300 1FDE 3 20 314 301 1FDF 3 20 314 342 1FE0 2 3C5 306 1FE1 2 3C5 304 1FE2 3 3C5 308 300 1FE3
  3 3C5 308 301 1FE4 2 3C1 313 1FE5 2 3C1 314 1FE6 2 3C5 342 1FE7 3 3C5 308 342 1FE8 2 3A5 306
  1FE9 2 3A5 304 1FEA 2 3A5 300 1FEB 2 3A5 301 1FEC 2 3A1 314 1FED 3 20 308 300 1FEE 3 20 308
  301 1FF2 3 3C9 300 345 1FF3 2 3C9 345 1FF4 3 3C9 301 345 1FF6 2 3C9 342 1FF7 3 3C9 342 345
  1FF8 2 39F 300 1FF9 2 39F 301 1FFA 2 3A9 300 1FFB 2 3A9 301 1FFC 2 3A9 345 1FFD 2 20 301 1FFE
  2 20 314 2017 2 20 333 2025 2 2E 2E 2026 3 2E 2E 2E 2033 2 2032 2032 2034 3 2032 2032 2032
  2036 2 2035 2035 2037 3 2035 2035 2035 203C 2 21 21 203E 2 20 305 2047 2 3F 3F 2048 2 3F 21
  2049 2 21 3F 2057 4 2032 2032 2032 2032 20A8 2 52 73 2100 3 61 2F 63 2101 3 61 2F 73 2103 2
  B0 43 2105 3 63 2F 6F 2106 3 63 2F 75 2109 2 B0 46 2116 2 4E 6F 2120 2 53 4D 2121 3 54 45 4C
  2122 2 54 4D 212B 2 41 30A 213B 3 46 41 58 2150 3 31 2044 37 2151 3 31 2044 39 2152 4 31 2044
  31 30 2153 3 31 2044 33 2154 3 32 2044 33 2155 3 31 2044 35 2156 3 32 2044 35 2157 3 33 2044
  35 2158 3 34 2044 35 2159 3 31 2044 36 215A 3 35 2044 36 215B 3 31 2044 38 215C 3 33 2044 38
  215D 3 35 2044 38 215E 3 37 2044 38 215F 2 31 2044 2161 2 49 49 2162 3 49 49 49 2163 2 49 56
  2165 2 56 49 2166 3 56 49 49 2167 4 56 49 49 49 2168 2 49 58 216A 2 58 49 216B 3 58 49 49
  2171 2 69 69 2172 3 69 69 69 2173 2 69 76 2175 2 76 69 2176 3 76 69 69 2177 4 76 69 69 69
  2178 2 69 78 217A 2 78 69 217B 3 78 69 69 2189 3 30 2044 33 219A 2 2190 338 219B 2 2192 338
  21AE 2 2194 338 21CD 2 21D0 338 21CE 2 21D4 338 21CF 2 21D2 338 2204 2 2203 338 2209 2 2208
  338 220C 2 220B 338 2224 2 2223 338 2226 2 2225 338 222C 2 222B 222B 222D 3 222B 222B 222B
  222F 2 222E 222E 2230 3 222E 222E 222E 2241 2 223C 338 2244 2 2243 338 2247 2 2245 338 2249 2
  2248 338 2260 2 3D 338 2262 2 2261 338 226D 2 224D 338 226E 2 3C 338 226F 2 3E 338 2270 2
  2264 338 2271 2 2265 338 2274 2 2272 338 2275 2 2273 338 2278 2 2276 338 2279 2 2277 338 2280
  2 227A 338 2281 2 227B 338 2284 2 2282 338 2285 2 2283 338 2288 2 2286 338 2289 2 2287 338
  22AC 2 22A2 338 22AD 2 22A8 338 22AE 2 22A9 338 22AF 2 22AB 338 22E0 2 227C 338 22E1 2 227D
  338 22E2 2 2291 338 22E3 2 2292 338 22EA 2 22B2 338 22EB 2 22B3 338 22EC 2 22B4 338 22ED 2
  22B5 338 2469 2 31 30 246A 2 31 31 246B 2 31 32 246C 2 31 33 246D 2 31 34 246E 2 31 35 246F 2
  31 36 2470 2 31 37 2471 2 31 38 2472 2 31 39 2473 2 32 30 2474 3 28 31 29 2475 3 28 32 29
  2476 3 28 33 29 2477 3 28 34 29 2478 3 28 35 29 2479 3 28 36 29 247A 3 28 37 29 247B 3 28 38
  29 247C 3 28 39 29 247D 4 28 31 30 29 247E 4 28 31 31 29 247F 4 28 31 32 29 2480 4 28 31 33
  29 2481 4 28 31 34 29 2482 4 28 31 35 29 2483 4 28 31 36 29 2484 4 28 31 37 29 2485 4 28 31
  38 29 2486 4 28 31 39 29 2487 4 28 32 30 29 2488 2 31 2E 2489 2 32 2E 248A 2 33 2E 248B 2 34
  2E 248C 2 35 2E 248D 2 36 2E 248E 2 37 2E 248F 2 38 2E 2490 2 39 2E 2491 3 31 30 2E 2492 3 31
  31 2E 2493 3 31 32 2E 2494 3 31 33 2E 2495 3 31 34 2E 2496 3 31 35 2E 2497 3 31 36 2E 2498 3
  31 37 2E 2499 3 31 38 2E 249A 3 31 39 2E 249B 3 32 30 2E 249C 3 28 61 29 249D 3 28 62 29 249E
  3 28 63 29 249F 3 28 64 29 24A0 3 28 65 29 24A1 3 28 66 29 24A2 3 28 67 29 24A3 3 28 68 29
  24A4 3 28 69 29 24A5 3 28 6A 29 24A6 3 28 6B 29 24A7 3 28 6C 29 24A8 3 28 6D 29 24A9 3 28 6E
  29 24AA 3 28 6F 29 24AB 3 28 70 29 24AC 3 28 71 29 24AD 3 28 72 29 24AE 3 28 73 29 24AF 3 28
  74 29 24B0 3 28 75 29 24B1 3 28 76 29 24B2 3 28 77 29 24B3 3 28 78 29 24B4 3 28 79 29 24B5 3
  28 7A 29 2A0C 4 222B 222B 222B 222B 2A74 3 3A 3A 3D 2A75 2 3D 3D 2A76 3 3D 3D 3D 2ADC 2 2ADD
  338 304C 2 304B 3099 304E 2 304D 3099 3050 2 304F 3099 3052 2 3051 3099 3054 2 3053 3099 3056
  2 3055 3099 3058 2 3057 3099 305A 2 3059 3099 305C 2 305B 3099 305E 2 305D 3099 3060 2 305F
  3099 3062 2 3061 3099 3065 2 3064 3099 3067 2 3066 3099 3069 2 3068 3099 3070 2 306F 3099
  3071 2 306F 309A 3073 2 3072 3099 3074 2 3072 309A 3076 2 3075 3099 3077 2 3075 309A 3079 2
  3078 3099 307A 2 3078 309A 307C 2 307B 3099 307D 2 307B 309A 3094 2 3046 3099 309B 2 20 3099
  309C 2 20 309A 309E 2 309D 3099 309F 2 3088 308A 30AC 2 30AB 3099 30AE 2 30AD 3099 30B0 2
  30AF 3099 30B2 2 30B1 3099 30B4 2 30B3 3099 30B6 2 30B5 3099 30B8 2 30B7 3099 30BA 2 30B9
  3099 30BC 2 30BB 3099 30BE 2 30BD 3099 30C0 2 30BF 3099 30C2 2 30C1 3099 30C5 2 30C4 3099
  30C7 2 30C6 3099 30C9 2 30C8 3099 30D0 2 30CF 3099 30D1 2 30CF 309A 30D3 2 30D2 3099 30D4 2
  30D2 309A 30D6 2 30D5 3099 30D7 2 30D5 309A 30D9 2 30D8 3099 30DA 2 30D8 309A 30DC 2 30DB
  3099 30DD 2 30DB 309A 30F4 2 30A6 3099 30F7 2 30EF 3099 30F8 2 30F0 3099 30F9 2 30F1 3099
  30FA 2 30F2 3099 30FE 2 30FD 3099 30FF 2 30B3 30C8 3200 3 28 1100 29 3201 3 28 1102 29 3202 3
  28 1103 29 3203 3 28 1105 29 3204 3 28 1106 29 3205 3 28 1107 29 3206 3 28 1109 29 3207 3 28
  110B 29 3208 3 28 110C 29 3209 3 28 110E 29 320A 3 28 110F 29 320B 3 28 1110 29 320C 3 28
  1111 29 320D 3 28 1112 29 320E 4 28 1100 1161 29 320F 4 28 1102 1161 29 3210 4 28 1103 1161
  29 3211 4 28 1105 1161 29 3212 4 28 1106 1161 29 3213 4 28 1107 1161 29 3214 4 28 1109 1161
  29 3215 4 28 110B 1161 29 3216 4 28 110C 1161 29 3217 4 28 110E 1161 29 3218 4 28 110F 1161
  29 3219 4 28 1110 1161 29 321A 4 28 1111 1161 29 321B 4 28 1112 1161 29 321C 4 28 110C 116E
  29 321D 7 28 110B 1169 110C 1165 11AB 29 321E 6 28 110B 1169 1112 116E 29 3220 3 28 4E00 29
  3221 3 28 4E8C 29 3222 3 28 4E09 29 3223 3 28 56DB 29 3224 3 28 4E94 29 3225 3 28 516D 29
  3226 3 28 4E03 29 3227 3 28 516B 29 3228 3 28 4E5D 29 3229 3 28 5341 29 322A 3 28 6708 29
  322B 3 28 706B 29 322C 3 28 6C34 29 322D 3 28 6728 29 322E 3 28 91D1 29 322F 3 28 571F 29
  3230 3 28 65E5 29 3231 3 28 682A 29 3232 3 28 6709 29 3233 3 28 793E 29 3234 3 28 540D 29
  3235 3 28 7279 29 3236 3 28 8CA1 29 3237 3 28 795D 29 3238 3 28 52B4 29 3239 3 28 4EE3 29
  323A 3 28 547C 29 323B 3 28 5B66 29 323C 3 28 76E3 29 323D 3 28 4F01 29 323E 3 28 8CC7 29
  323F 3 28 5354 29 3240 3 28 796D 29 3241 3 28 4F11 29 3242 3 28 81EA 29 3243 3 28 81F3 29
  3250 3 50 54 45 3251 2 32 31 3252 2 32 32 3253 2 32 33 3254 2 32 34 3255 2 32 35 3256 2 32 36
  3257 2 32 37 3258 2 32 38 3259 2 32 39 325A 2 33 30 325B 2 33 31 325C 2 33 32 325D 2 33 33
  325E 2 33 34 325F 2 33 35 326E 2 1100 1161 326F 2 1102 1161 3270 2 1103 1161 3271 2 1105 1161
  3272 2 1106 1161 3273 2 1107 1161 3274 2 1109 1161 3275 2 110B 1161 3276 2 110C 1161 3277 2
  110E 1161 3278 2 110F 1161 3279 2 1110 1161 327A 2 1111 1161 327B 2 1112 1161 327C 5 110E
  1161 11B7 1100 1169 327D 4 110C 116E 110B 1174 327E 2 110B 116E 32B1 2 33 36 32B2 2 33 37
  32B3 2 33 38 32B4 2 33 39 32B5 2 34 30 32B6 2 34 31 32B7 2 34 32 32B8 2 34 33 32B9 2 34 34
  32BA 2 34 35 32BB 2 34 36 32BC 2 34 37 32BD 2 34 38 32BE 2 34 39 32BF 2 35 30 32C0 2 31 6708
  32C1 2 32 6708 32C2 2 33 6708 32C3 2 34 6708 32C4 2 35 6708 32C5 2 36 6708 32C6 2 37 6708
  32C7 2 38 6708 32C8 2 39 6708 32C9 3 31 30 6708 32CA 3 31 31 6708 32CB 3 31 32 6708 32CC 2 48
  67 32CD 3 65 72 67 32CE 2 65 56 32CF 3 4C 54 44 32FF 2 4EE4 548C 3300 5 30A2 30CF 309A 30FC
  30C8 3301 4 30A2 30EB 30D5 30A1 3302 5 30A2 30F3 30D8 309A 30A2 3303 3 30A2 30FC 30EB 3304 5
  30A4 30CB 30F3 30AF 3099 3305 3 30A4 30F3 30C1 3306 3 30A6 30A9 30F3 3307 6 30A8 30B9 30AF
  30FC 30C8 3099 3308 4 30A8 30FC 30AB 30FC 3309 3 30AA 30F3 30B9 330A 3 30AA 30FC 30E0 330B 3
  30AB 30A4 30EA 330C 4 30AB 30E9 30C3 30C8 330D 4 30AB 30ED 30EA 30FC 330E 4 30AB 3099 30ED
  30F3 330F 4 30AB 3099 30F3 30DE 3310 4 30AD 3099 30AB 3099 3311 4 30AD 3099 30CB 30FC 3312 4
  30AD 30E5 30EA 30FC 3313 6 30AD 3099 30EB 30BF 3099 30FC 3314 2 30AD 30ED 3315 6 30AD 30ED
  30AF 3099 30E9 30E0 3316 6 30AD 30ED 30E1 30FC 30C8 30EB 3317 5 30AD 30ED 30EF 30C3 30C8 3318
  4 30AF 3099 30E9 30E0 3319 6 30AF 3099 30E9 30E0 30C8 30F3 331A 6 30AF 30EB 30BB 3099 30A4
  30ED 331B 4 30AF 30ED 30FC 30CD 331C 3 30B1 30FC 30B9 331D 3 30B3 30EB 30CA 331E 4 30B3 30FC
  30DB 309A 331F 4 30B5 30A4 30AF 30EB 3320 5 30B5 30F3 30C1 30FC 30E0 3321 5 30B7 30EA 30F3
  30AF 3099 3322 3 30BB 30F3 30C1 3323 3 30BB 30F3 30C8 3324 4 30BF 3099 30FC 30B9 3325 3 30C6
  3099 30B7 3326 3 30C8 3099 30EB 3327 2 30C8 30F3 3328 2 30CA 30CE 3329 3 30CE 30C3 30C8 332A
  3 30CF 30A4 30C4 332B 6 30CF 309A 30FC 30BB 30F3 30C8 332C 4 30CF 309A 30FC 30C4 332D 5 30CF
  3099 30FC 30EC 30EB 332E 6 30D2 309A 30A2 30B9 30C8 30EB 332F 4 30D2 309A 30AF 30EB 3330 3
  30D2 309A 30B3 3331 3 30D2 3099 30EB 3332 6 30D5 30A1 30E9 30C3 30C8 3099 3333 4 30D5 30A3
  30FC 30C8 3334 6 30D5 3099 30C3 30B7 30A7 30EB 3335 3 30D5 30E9 30F3 3336 5 30D8 30AF 30BF
  30FC 30EB 3337 3 30D8 309A 30BD 3338 4 30D8 309A 30CB 30D2 3339 3 30D8 30EB 30C4 333A 4 30D8
  309A 30F3 30B9 333B 5 30D8 309A 30FC 30B7 3099 333C 4 30D8 3099 30FC 30BF 333D 5 30DB 309A
  30A4 30F3 30C8 333E 4 30DB 3099 30EB 30C8 333F 2 30DB 30F3 3340 5 30DB 309A 30F3 30C8 3099
  3341 3 30DB 30FC 30EB 3342 3 30DB 30FC 30F3 3343 4 30DE 30A4 30AF 30ED 3344 3 30DE 30A4 30EB
  3345 3 30DE 30C3 30CF 3346 3 30DE 30EB 30AF 3347 5 30DE 30F3 30B7 30E7 30F3 3348 4 30DF 30AF
  30ED 30F3 3349 2 30DF 30EA 334A 6 30DF 30EA 30CF 3099 30FC 30EB 334B 3 30E1 30AB 3099 334C 5
  30E1 30AB 3099 30C8 30F3 334D 4 30E1 30FC 30C8 30EB 334E 4 30E4 30FC 30C8 3099 334F 3 30E4
  30FC 30EB 3350 3 30E6 30A2 30F3 3351 4 30EA 30C3 30C8 30EB 3352 2 30EA 30E9 3353 4 30EB 30D2
  309A 30FC 3354 5 30EB 30FC 30D5 3099 30EB 3355 2 30EC 30E0 3356 6 30EC 30F3 30C8 30B1 3099
  30F3 3357 3 30EF 30C3 30C8 3358 2 30 70B9 3359 2 31 70B9 335A 2 32 70B9 335B 2 33 70B9 335C 2
  34 70B9 335D 2 35 70B9 335E 2 36 70B9 335F 2 37 70B9 3360 2 38 70B9 3361 2 39 70B9 3362 3 31
  30 70B9 3363 3 31 31 70B9 3364 3 31 32 70B9 3365 3 31 33 70B9 3366 3 31 34 70B9 3367 3 31 35
  70B9 3368 3 31 36 70B9 3369 3 31 37 70B9 336A 3 31 38 70B9 336B 3 31 39 70B9 336C 3 32 30
  70B9 336D 3 32 31 70B9 336E 3 32 32 70B9 336F 3 32 33 70B9 3370 3 32 34 70B9 3371 3 68 50 61
  3372 2 64 61 3373 2 41 55 3374 3 62 61 72 3375 2 6F 56 3376 2 70 63 3377 2 64 6D 3378 3 64 6D
  32 3379 3 64 6D 33 337A 2 49 55 337B 2 5E73 6210 337C 2 662D 548C 337D 2 5927 6B63 337E 2
  660E 6CBB 337F 4 682A 5F0F 4F1A 793E 3380 2 70 41 3381 2 6E 41 3382 2 3BC 41 3383 2 6D 41
  3384 2 6B 41 3385 2 4B 42 3386 2 4D 42 3387 2 47 42 3388 3 63 61 6C 3389 4 6B 63 61 6C 338A 2
  70 46 338B 2 6E 46 338C 2 3BC 46 338D 2 3BC 67 338E 2 6D 67 338F 2 6B 67 3390 2 48 7A 3391 3
  6B 48 7A 3392 3 4D 48 7A 3393 3 47 48 7A 3394 3 54 48 7A 3395 2 3BC 6C 3396 2 6D 6C 3397 2 64
  6C 3398 2 6B 6C 3399 2 66 6D 339A 2 6E 6D 339B 2 3BC 6D 339C 2 6D 6D 339D 2 63 6D 339E 2 6B
  6D 339F 3 6D 6D 32 33A0 3 63 6D 32 33A1 2 6D 32 33A2 3 6B 6D 32 33A3 3 6D 6D 33 33A4 3 63 6D
  33 33A5 2 6D 33 33A6 3 6B 6D 33 33A7 3 6D 2215 73 33A8 4 6D 2215 73 32 33A9 2 50 61 33AA 3 6B
  50 61 33AB 3 4D 50 61 33AC 3 47 50 61 33AD 3 72 61 64 33AE 5 72 61 64 2215 73 33AF 6 72 61 64
  2215 73 32 33B0 2 70 73 33B1 2 6E 73 33B2 2 3BC 73 33B3 2 6D 73 33B4 2 70 56 33B5 2 6E 56
  33B6 2 3BC 56 33B7 2 6D 56 33B8 2 6B 56 33B9 2 4D 56 33BA 2 70 57 33BB 2 6E 57 33BC 2 3BC 57
  33BD 2 6D 57 33BE 2 6B 57 33BF 2 4D 57 33C0 2 6B 3A9 33C1 2 4D 3A9 33C2 4 61 2E 6D 2E 33C3 2
  42 71 33C4 2 63 63 33C5 2 63 64 33C6 4 43 2215 6B 67 33C7 3 43 6F 2E 33C8 2 64 42 33C9 2 47
  79 33CA 2 68 61 33CB 2 48 50 33CC 2 69 6E 33CD 2 4B 4B 33CE 2 4B 4D 33CF 2 6B 74 33D0 2 6C 6D
  33D1 2 6C 6E 33D2 3 6C 6F 67 33D3 2 6C 78 33D4 2 6D 62 33D5 3 6D 69 6C 33D6 3 6D 6F 6C 33D7 2
  50 48 33D8 4 70 2E 6D 2E 33D9 3 50 50 4D 33DA 2 50 52 33DB 2 73 72 33DC 2 53 76 33DD 2 57 62
  33DE 3 56 2215 6D 33DF 3 41 2215 6D 33E0 2 31 65E5 33E1 2 32 65E5 33E2 2 33 65E5 33E3 2 34
  65E5 33E4 2 35 65E5 33E5 2 36 65E5 33E6 2 37 65E5 33E7 2 38 65E5 33E8 2 39 65E5 33E9 3 31 30
  65E5 33EA 3 31 31 65E5 33EB 3 31 32 65E5 33EC 3 31 33 65E5 33ED 3 31 34 65E5 33EE 3 31 35
  65E5 33EF 3 31 36 65E5 33F0 3 31 37 65E5 33F1 3 31 38 65E5 33F2 3 31 39 65E5 33F3 3 32 30
  65E5 33F4 3 32 31 65E5 33F5 3 32 32 65E5 33F6 3 32 33 65E5 33F7 3 32 34 65E5 33F8 3 32 35
  65E5 33F9 3 32 36 65E5 33FA 3 32 37 65E5 33FB 3 32 38 65E5 33FC 3 32 39 65E5 33FD 3 33 30
  65E5 33FE 3 33 31 65E5 33FF 3 67 61 6C FB00 2 66 66 FB01 2 66 69 FB02 2 66 6C FB03 3 66 66 69
  FB04 3 66 66 6C FB05 2 73 74 FB06 2 73 74 FB13 2 574 576 FB14 2 574 565 FB15 2 574 56B FB16 2
  57E 576 FB17 2 574 56D FB1D 2 5D9 5B4 FB1F 2 5F2 5B7 FB2A 2 5E9 5C1 FB2B 2 5E9 5C2 FB2C 3 5E9
  5BC 5C1 FB2D 3 5E9 5BC 5C2 FB2E 2 5D0 5B7 FB2F 2 5D0 5B8 FB30 2 5D0 5BC FB31 2 5D1 5BC FB32 2
  5D2 5BC FB33 2 5D3 5BC FB34 2 5D4 5BC FB35 2 5D5 5BC FB36 2 5D6 5BC FB38 2 5D8 5BC FB39 2 5D9
  5BC FB3A 2 5DA 5BC FB3B 2 5DB 5BC FB3C 2 5DC 5BC FB3E 2 5DE 5BC FB40 2 5E0 5BC FB41 2 5E1 5BC
  FB43 2 5E3 5BC FB44 2 5E4 5BC FB46 2 5E6 5BC FB47 2 5E7 5BC FB48 2 5E8 5BC FB49 2 5E9 5BC
  FB4A 2 5EA 5BC FB4B 2 5D5 5B9 FB4C 2 5D1 5BF FB4D 2 5DB 5BF FB4E 2 5E4 5BF FB4F 2 5D0 5DC
  FBA4 2 6D5 654 FBA5 2 6D5 654 FBB0 2 6D2 654 FBB1 2 6D2 654 FBDD 2 6C7 674 FBEA 3 64A 654 627
  FBEB 3 64A 654 627 FBEC 3 64A 654 6D5 FBED 3 64A 654 6D5 FBEE 3 64A 654 648 FBEF 3 64A 654
  648 FBF0 3 64A 654 6C7 FBF1 3 64A 654 6C7 FBF2 3 64A 654 6C6 FBF3 3 64A 654 6C6 FBF4 3 64A
  654 6C8 FBF5 3 64A 654 6C8 FBF6 3 64A 654 6D0 FBF7 3 64A 654 6D0 FBF8 3 64A 654 6D0 FBF9 3
  64A 654 649 FBFA 3 64A 654 649 FBFB 3 64A 654 649 FC00 3 64A 654 62C FC01 3 64A 654 62D FC02
  3 64A 654 645 FC03 3 64A 654 649 FC04 3 64A 654 64A FC05 2 628 62C FC06 2 628 62D FC07 2 628
  62E FC08 2 628 645 FC09 2 628 649 FC0A 2 628 64A FC0B 2 62A 62C FC0C 2 62A 62D FC0D 2 62A 62E
  FC0E 2 62A 645 FC0F 2 62A 649 FC10 2 62A 64A FC11 2 62B 62C FC12 2 62B 645 FC13 2 62B 649
  FC14 2 62B 64A FC15 2 62C 62D FC16 2 62C 645 FC17 2 62D 62C FC18 2 62D 645 FC19 2 62E 62C
  FC1A 2 62E 62D FC1B 2 62E 645 FC1C 2 633 62C FC1D 2 633 62D FC1E 2 633 62E FC1F 2 633 645
  FC20 2 635 62D FC21 2 635 645 FC22 2 636 62C FC23 2 636 62D FC24 2 636 62E FC25 2 636 645
  FC26 2 637 62D FC27 2 637 645 FC28 2 638 645 FC29 2 639 62C FC2A 2 639 645 FC2B 2 63A 62C
  FC2C 2 63A 645 FC2D 2 641 62C FC2E 2 641 62D FC2F 2 641 62E FC30 2 641 645 FC31 2 641 649
  FC32 2 641 64A FC33 2 642 62D FC34 2 642 645 FC35 2 642 649 FC36 2 642 64A FC37 2 643 627
  FC38 2 643 62C FC39 2 643 62D FC3A 2 643 62E FC3B 2 643 644 FC3C 2 643 645 FC3D 2 643 649
  FC3E 2 643 64A FC3F 2 644 62C FC40 2 644 62D FC41 2 644 62E FC42 2 644 645 FC43 2 644 649
  FC44 2 644 64A FC45 2 645 62C FC46 2 645 62D FC47 2 645 62E FC48 2 645 645 FC49 2 645 649
  FC4A 2 645 64A FC4B 2 646 62C FC4C 2 646 62D FC4D 2 646 62E FC4E 2 646 645 FC4F 2 646 649
  FC50 2 646 64A FC51 2 647 62C FC52 2 647 645 FC53 2 647 649 FC54 2 647 64A FC55 2 64A 62C
  FC56 2 64A 62D FC57 2 64A 62E FC58 2 64A 645 FC59 2 64A 649 FC5A 2 64A 64A FC5B 2 630 670
  FC5C 2 631 670 FC5D 2 649 670 FC5E 3 20 64C 651 FC5F 3 20 64D 651 FC60 3 20 64E 651 FC61 3 20
  64F 651 FC62 3 20 650 651 FC63 3 20 651 670 FC64 3 64A 654 631 FC65 3 64A 654 632 FC66 3 64A
  654 645 FC67 3 64A 654 646 FC68 3 64A 654 649 FC69 3 64A 654 64A FC6A 2 628 631 FC6B 2 628
  632 FC6C 2 628 645 FC6D 2 628 646 FC6E 2 628 649 FC6F 2 628 64A FC70 2 62A 631 FC71 2 62A 632
  FC72 2 62A 645 FC73 2 62A 646 FC74 2 62A 649 FC75 2 62A 64A FC76 2 62B 631 FC77 2 62B 632
  FC78 2 62B 645 FC79 2 62B 646 FC7A 2 62B 649 FC7B 2 62B 64A FC7C 2 641 649 FC7D 2 641 64A
  FC7E 2 642 649 FC7F 2 642 64A FC80 2 643 627 FC81 2 643 644 FC82 2 643 645 FC83 2 643 649
  FC84 2 643 64A FC85 2 644 645 FC86 2 644 649 FC87 2 644 64A FC88 2 645 627 FC89 2 645 645
  FC8A 2 646 631 FC8B 2 646 632 FC8C 2 646 645 FC8D 2 646 646 FC8E 2 646 649 FC8F 2 646 64A
  FC90 2 649 670 FC91 2 64A 631 FC92 2 64A 632 FC93 2 64A 645 FC94 2 64A 646 FC95 2 64A 649
  FC96 2 64A 64A FC97 3 64A 654 62C FC98 3 64A 654 62D FC99 3 64A 654 62E FC9A 3 64A 654 645
  FC9B 3 64A 654 647 FC9C 2 628 62C FC9D 2 628 62D FC9E 2 628 62E FC9F 2 628 645 FCA0 2 628 647
  FCA1 2 62A 62C FCA2 2 62A 62D FCA3 2 62A 62E FCA4 2 62A 645 FCA5 2 62A 647 FCA6 2 62B 645
  FCA7 2 62C 62D FCA8 2 62C 645 FCA9 2 62D 62C FCAA 2 62D 645 FCAB 2 62E 62C FCAC 2 62E 645
  FCAD 2 633 62C FCAE 2 633 62D FCAF 2 633 62E FCB0 2 633 645 FCB1 2 635 62D FCB2 2 635 62E
  FCB3 2 635 645 FCB4 2 636 62C FCB5 2 636 62D FCB6 2 636 62E FCB7 2 636 645 FCB8 2 637 62D
  FCB9 2 638 645 FCBA 2 639 62C FCBB 2 639 645 FCBC 2 63A 62C FCBD 2 63A 645 FCBE 2 641 62C
  FCBF 2 641 62D FCC0 2 641 62E FCC1 2 641 645 FCC2 2 642 62D FCC3 2 642 645 FCC4 2 643 62C
  FCC5 2 643 62D FCC6 2 643 62E FCC7 2 643 644 FCC8 2 643 645 FCC9 2 644 62C FCCA 2 644 62D
  FCCB 2 644 62E FCCC 2 644 645 FCCD 2 644 647 FCCE 2 645 62C FCCF 2 645 62D FCD0 2 645 62E
  FCD1 2 645 645 FCD2 2 646 62C FCD3 2 646 62D FCD4 2 646 62E FCD5 2 646 645 FCD6 2 646 647
  FCD7 2 647 62C FCD8 2 647 645 FCD9 2 647 670 FCDA 2 64A 62C FCDB 2 64A 62D FCDC 2 64A 62E
  FCDD 2 64A 645 FCDE 2 64A 647 FCDF 3 64A 654 645 FCE0 3 64A 654 647 FCE1 2 628 645 FCE2 2 628
  647 FCE3 2 62A 645 FCE4 2 62A 647 FCE5 2 62B 645 FCE6 2 62B 647 FCE7 2 633 645 FCE8 2 633 647
  FCE9 2 634 645 FCEA 2 634 647 FCEB 2 643 644 FCEC 2 643 645 FCED 2 644 645 FCEE 2 646 645
  FCEF 2 646 647 FCF0 2 64A 645 FCF1 2 64A 647 FCF2 3 640 64E 651 FCF3 3 640 64F 651 FCF4 3 640
  650 651 FCF5 2 637 649 FCF6 2 637 64A FCF7 2 639 649 FCF8 2 639 64A FCF9 2 63A 649 FCFA 2 63A
  64A FCFB 2 633 649 FCFC 2 633 64A FCFD 2 634 649 FCFE 2 634 64A FCFF 2 62D 649 FD00 2 62D 64A
  FD01 2 62C 649 FD02 2 62C 64A FD03 2 62E 649 FD04 2 62E 64A FD05 2 635 649 FD06 2 635 64A
  FD07 2 636 649 FD08 2 636 64A FD09 2 634 62C FD0A 2 634 62D FD0B 2 634 62E FD0C 2 634 645
  FD0D 2 634 631 FD0E 2 633 631 FD0F 2 635 631 FD10 2 636 631 FD11 2 637 649 FD12 2 637 64A
  FD13 2 639 649 FD14 2 639 64A FD15 2 63A 649 FD16 2 63A 64A FD17 2 633 649 FD18 2 633 64A
  FD19 2 634 649 FD1A 2 634 64A FD1B 2 62D 649 FD1C 2 62D 64A FD1D 2 62C 649 FD1E 2 62C 64A
  FD1F 2 62E 649 FD20 2 62E 64A FD21 2 635 649 FD22 2 635 64A FD23 2 636 649 FD24 2 636 64A
  FD25 2 634 62C FD26 2 634 62D FD27 2 634 62E FD28 2 634 645 FD29 2 634 631 FD2A 2 633 631
  FD2B 2 635 631 FD2C 2 636 631 FD2D 2 634 62C FD2E 2 634 62D FD2F 2 634 62E FD30 2 634 645
  FD31 2 633 647 FD32 2 634 647 FD33 2 637 645 FD34 2 633 62C FD35 2 633 62D FD36 2 633 62E
  FD37 2 634 62C FD38 2 634 62D FD39 2 634 62E FD3A 2 637 645 FD3B 2 638 645 FD3C 2 627 64B
  FD3D 2 627 64B FD50 3 62A 62C 645 FD51 3 62A 62D 62C FD52 3 62A 62D 62C FD53 3 62A 62D 645
  FD54 3 62A 62E 645 FD55 3 62A 645 62C FD56 3 62A 645 62D FD57 3 62A 645 62E FD58 3 62C 645
  62D FD59 3 62C 645 62D FD5A 3 62D 645 64A FD5B 3 62D 645 649 FD5C 3 633 62D 62C FD5D 3 633
  62C 62D FD5E 3 633 62C 649 FD5F 3 633 645 62D FD60 3 633 645 62D FD61 3 633 645 62C FD62 3
  633 645 645 FD63 3 633 645 645 FD64 3 635 62D 62D FD65 3 635 62D 62D FD66 3 635 645 645 FD67
  3 634 62D 645 FD68 3 634 62D 645 FD69 3 634 62C 64A FD6A 3 634 645 62E FD6B 3 634 645 62E
  FD6C 3 634 645 645 FD6D 3 634 645 645 FD6E 3 636 62D 649 FD6F 3 636 62E 645 FD70 3 636 62E
  645 FD71 3 637 645 62D FD72 3 637 645 62D FD73 3 637 645 645 FD74 3 637 645 64A FD75 3 639
  62C 645 FD76 3 639 645 645 FD77 3 639 645 645 FD78 3 639 645 649 FD79 3 63A 645 645 FD7A 3
  63A 645 64A FD7B 3 63A 645 649 FD7C 3 641 62E 645 FD7D 3 641 62E 645 FD7E 3 642 645 62D FD7F
  3 642 645 645 FD80 3 644 62D 645 FD81 3 644 62D 64A FD82 3 644 62D 649 FD83 3 644 62C 62C
  FD84 3 644 62C 62C FD85 3 644 62E 645 FD86 3 644 62E 645 FD87 3 644 645 62D FD88 3 644 645
  62D FD89 3 645 62D 62C FD8A 3 645 62D 645 FD8B 3 645 62D 64A FD8C 3 645 62C 62D FD8D 3 645
  62C 645 FD8E 3 645 62E 62C FD8F 3 645 62E 645 FD92 3 645 62C 62E FD93 3 647 645 62C FD94 3
  647 645 645 FD95 3 646 62D 645 FD96 3 646 62D 649 FD97 3 646 62C 645 FD98 3 646 62C 645 FD99
  3 646 62C 649 FD9A 3 646 645 64A FD9B 3 646 645 649 FD9C 3 64A 645 645 FD9D 3 64A 645 645
  FD9E 3 628 62E 64A FD9F 3 62A 62C 64A FDA0 3 62A 62C 649 FDA1 3 62A 62E 64A FDA2 3 62A 62E
  649 FDA3 3 62A 645 64A FDA4 3 62A 645 649 FDA5 3 62C 645 64A FDA6 3 62C 62D 649 FDA7 3 62C
  645 649 FDA8 3 633 62E 649 FDA9 3 635 62D 64A FDAA 3 634 62D 64A FDAB 3 636 62D 64A FDAC 3
  644 62C 64A FDAD 3 644 645 64A FDAE 3 64A 62D 64A FDAF 3 64A 62C 64A FDB0 3 64A 645 64A FDB1
  3 645 645 64A FDB2 3 642 645 64A FDB3 3 646 62D 64A FDB4 3 642 645 62D FDB5 3 644 62D 645
  FDB6 3 639 645 64A FDB7 3 643 645 64A FDB8 3 646 62C 62D FDB9 3 645 62E 64A FDBA 3 644 62C
  645 FDBB 3 643 645 645 FDBC 3 644 62C 645 FDBD 3 646 62C 62D FDBE 3 62C 62D 64A FDBF 3 62D
  62C 64A FDC0 3 645 62C 64A FDC1 3 641 645 64A FDC2 3 628 62D 64A FDC3 3 643 645 645 FDC4 3
  639 62C 645 FDC5 3 635 645 645 FDC6 3 633 62E 64A FDC7 3 646 62C 64A FDF0 3 635 644 6D2 FDF1
  3 642 644 6D2 FDF2 4 627 644 644 647 FDF3 4 627 643 628 631 FDF4 4 645 62D 645 62F FDF5 4 635
  644 639 645 FDF6 4 631 633 648 644 FDF7 4 639 644 64A 647 FDF8 4 648 633 644 645 FDF9 3 635
  644 649 FDFA 12 635 644 649 20 627 644 644 647 20 639 644 64A 647 20 648 633 644 645 FDFB 8
  62C 644 20 62C 644 627 644 647 FDFC 4 631 6CC 627 644 FE19 3 2E 2E 2E FE30 2 2E 2E FE49 2 20
  305 FE4A 2 20 305 FE4B 2 20 305 FE4C 2 20 305 FE70 2 20 64B FE71 2 640 64B FE72 2 20 64C FE74
  2 20 64D FE76 2 20 64E FE77 2 640 64E FE78 2 20 64F FE79 2 640 64F FE7A 2 20 650 FE7B 2 640
  650 FE7C 2 20 651 FE7D 2 640 651 FE7E 2 20 652 FE7F 2 640 652 FE81 2 627 653 FE82 2 627 653
  FE83 2 627 654 FE84 2 627 654 FE85 2 648 654 FE86 2 648 654 FE87 2 627 655 FE88 2 627 655
  FE89 2 64A 654 FE8A 2 64A 654 FE8B 2 64A 654 FE8C 2 64A 654 FEF5 3 644 627 653 FEF6 3 644 627
  653 FEF7 3 644 627 654 FEF8 3 644 627 654 FEF9 3 644 627 655 FEFA 3 644 627 655 FEFB 2 644
  627 FEFC 2 644 627 FFE3 2 20 304 105C9 2 105D2 307 105E4 2 105DA 307 1109A 2 11099 110BA
  1109C 2 1109B 110BA 110AB 2 110A5 110BA 1112E 2 11131 11127 1112F 2 11132 11127 1134B 2 11347
  1133E 1134C 2 11347 11357 11383 2 11382 113C9 11385 2 11384 113BB 1138E 2 1138B 113C2 11391 2
  11390 113C9 113C5 2 113C2 113C2 113C7 2 113C2 113B8 113C8 2 113C2 113C9 114BB 2 114B9 114BA
  114BC 2 114B9 114B0 114BE 2 114B9 114BD 115BA 2 115B8 115AF 115BB 2 115B9 115AF 11938 2 11935
  11930 16121 2 1611E 1611E 16122 2 1611E 16129 16123 2 1611E 1611F 16124 2 16129 1611F 16125 2
  1611E 16120 16126 3 1611E 1611E 1611F 16127 3 1611E 16129 1611F 16128 3 1611E 1611E 16120
  16D68 2 16D67 16D67 16D69 2 16D63 16D67 16D6A 3 16D63 16D67 16D67 1B123 2 3053 3068 1D15E 2
  1D157 1D165 1D15F 2 1D158 1D165 1D160 3 1D158 1D165 1D16E 1D161 3 1D158 1D165 1D16F 1D162 3
  1D158 1D165 1D170 1D163 3 1D158 1D165 1D171 1D164 3 1D158 1D165 1D172 1D1BB 2 1D1B9 1D165
  1D1BC 2 1D1BA 1D165 1D1BD 3 1D1B9 1D165 1D16E 1D1BE 3 1D1BA 1D165 1D16E 1D1BF 3 1D1B9 1D165
  1D16F 1D1C0 3 1D1BA 1D165 1D16F 1F100 2 30 2E 1F101 2 30 2C 1F102 2 31 2C 1F103 2 32 2C 1F104
  2 33 2C 1F105 2 34 2C 1F106 2 35 2C 1F107 2 36 2C 1F108 2 37 2C 1F109 2 38 2C 1F10A 2 39 2C
  1F110 3 28 41 29 1F111 3 28 42 29 1F112 3 28 43 29 1F113 3 28 44 29 1F114 3 28 45 29 1F115 3
  28 46 29 1F116 3 28 47 29 1F117 3 28 48 29 1F118 3 28 49 29 1F119 3 28 4A 29 1F11A 3 28 4B 29
  1F11B 3 28 4C 29 1F11C 3 28 4D 29 1F11D 3 28 4E 29 1F11E 3 28 4F 29 1F11F 3 28 50 29 1F120 3
  28 51 29 1F121 3 28 52 29 1F122 3 28 53 29 1F123 3 28 54 29 1F124 3 28 55 29 1F125 3 28 56 29
  1F126 3 28 57 29 1F127 3 28 58 29 1F128 3 28 59 29 1F129 3 28 5A 29 1F12A 3 3014 53 3015
  1F12D 2 43 44 1F12E 2 57 5A 1F14A 2 48 56 1F14B 2 4D 56 1F14C 2 53 44 1F14D 2 53 53 1F14E 3
  50 50 56 1F14F 2 57 43 1F16A 2 4D 43 1F16B 2 4D 44 1F16C 2 4D 52 1F190 2 44 4A 1F200 2 307B
  304B 1F201 2 30B3 30B3 1F213 2 30C6 3099 1F240 3 3014 672C 3015 1F241 3 3014 4E09 3015 1F242
  3 3014 4E8C 3015 1F243 3 3014 5B89 3015 1F244 3 3014 70B9 3015 1F245 3 3014 6253 3015 1F246 3
  3014 76D7 3015 1F247 3 3014 52DD 3015 1F248 3 3014 6557 3015"

/-- Splits the words of the table into entries: a code point, a length, and as many code
points.  The fuel bounds the number of entries. -/
def sequencesOfWords : (fuel : Nat) → List Nat → List (Nat × List Char)
  | fuel + 1, code :: length :: rest =>
      (code, (rest.take length).map Char.ofNat) :: sequencesOfWords fuel (rest.drop length)
  | _, _ => []

/-- Decompositions into several characters, in ascending order. -/
def sequences : Array (Nat × List Char) :=
  let words := (hexWords sequenceTable).toList
  (sequencesOfWords words.length words).toArray

def sequenceKeys : Array Nat := sequences.map (·.1)

/-- First and last Hangul syllable, and the first of the three kinds of letters that
compose them. -/
def hangulFirst : Nat := 0xAC00
def hangulCount : Nat := 11172
def leadingFirst : Nat := 0x1100
def vowelFirst : Nat := 0x1161
def trailingFirst : Nat := 0x11A7

/-- The letters of a Hangul syllable. -/
def hangulLetters? (c : Char) : Option (List Char) :=
  if hangulFirst ≤ c.toNat ∧ c.toNat < hangulFirst + hangulCount then
    let index := c.toNat - hangulFirst
    let pair :=
      [Char.ofNat (leadingFirst + index / 588), Char.ofNat (vowelFirst + index % 588 / 28)]
    some (if index % 28 = 0 then pair else pair ++ [Char.ofNat (trailingFirst + index % 28)])
  else none

/-- The full compatibility decomposition of a character. -/
def decompose (c : Char) : List Char :=
  match hangulLetters? c with
  | some letters => letters
  | none =>
      match singleMap.find? c.toNat with
      | some code => [Char.ofNat code]
      | none =>
          match sequences[rank sequenceKeys c.toNat - 1]? with
          | some (code, letters) => if code = c.toNat then letters else [c]
          | none => [c]

end EntryStore.Text
