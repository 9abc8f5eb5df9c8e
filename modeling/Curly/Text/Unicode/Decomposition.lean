import Curly.Text.Unicode.Ranges

/-!
Compatibility decompositions in Unicode 14, of the characters that may stand in identifiers: as runs
of characters that move by one distance, and as single characters that become several. Syllables of
Hangul are not listed, for their parts are computed.
-/

namespace Curly.Text.Unicode

/-- Characters that become one other character. -/
def decompositionMoves : String := "
AA~49 B5+307 BA~4B 17F~10C 2B0~248 2B1~4B 2B2~248 2B3~241 2B4~3B 2B5~3A 2B6~35 2B7~240 2B8~23F
2E0~7D 2E1~275 2E2~26F 2E3~26B 2E4~4F 340-341~40 343~30 374~BB 387~2D0 3D0~1E 3D1~19 3D2~2D 3D5~F
3D6~16 3F0~36 3F1-3F2~30 3F4~5C 3F5~40 3F9~56 10FC~20 1D2C~1CEB 1D2D~1C67 1D2E~1CEC 1D30-1D31~1CEC
1D32~1BA4 1D33-1D3A~1CEC 1D3C~1CED 1D3D~1B1B 1D3E~1CEE 1D3F~1CED 1D40-1D41~1CEC 1D42~1CEB
1D43~1CE2 1D44-1D45~1AF4 1D46~44 1D47~1CE5 1D48-1D49~1CE4 1D4A~1AF1 1D4B-1D4C~1AF0 1D4D~1CE6
1D4F~1CE4 1D50~1CE3 1D51~1C06 1D52~1CE3 1D53~1AFF 1D54-1D55~3E 1D56~1CE6 1D57-1D58~1CE3 1D59~3C
1D5A~1AEB 1D5B~1CE5 1D5C~37 1D5D-1D5F~19AB 1D60-1D61~199A 1D62~1CF9 1D63~1CF1 1D64-1D65~1CEF
1D66-1D67~19B4 1D68~19A7 1D69-1D6A~19A3 1D78~193B 1D9B~1B49 1D9C~1D39 1D9D~1B48 1D9E~1CAE
1D9F~1B43 1DA0~1D3A 1DA1~1B42 1DA2~1B41 1DA3~1B3E 1DA4-1DA6~1B3C 1DA7~2C 1DA8~1B0B 1DA9~1B3C
1DAA~25 1DAB~1B0C 1DAC~1B3B 1DAD~1B3D 1DAE-1DB1~1B3C 1DB2~1B3A 1DB3-1DB4~1B31 1DB5~1C0A
1DB6-1DB7~1B2D 1DB8~9C 1DB9-1DBA~1B2E 1DBB~1D41 1DBC-1DBE~1B2C 1DBF~1A07 1FBE~1C05 2071~2008
207F~2011 2090~202F 2091~202C 2092~2023 2093~201B 2094~1E3B 2095~202D 2096-2099~202B 209A~202A
209B-209C~2028 2102~20BF 2107~1F77 210A~20A3 210B~20C3 210C~20C4 210D~20C5 210E~20A6 210F~1FE8
2110~20C7 2111~20C8 2112~20C6 2113~20A7 2115~20C7 2119-211B~20C9 211C~20CA 211D~20CB 2124~20CA
2126~1D7D 2128~20CE 212A~20DF 212C-212D~20EA 212F~20CA 2130-2131~20EB 2133~20E6 2134~20C5
2135-2138~1B65 2139~20D0 213C~1D7C 213D~1D8A 213E~1DAB 213F~1D9F 2145~2101 2146-2147~20E2
2148-2149~20DF 2160~2117 2164~210E 2169~2111 216C~2120 216D-216E~212A 216F~2122 2170~2107
2174~20FE 2179~2101 217C~2110 217D-217E~211A 217F~2112 2C7C~2C12 2C7D~2C27 2D6F~E 3038+2309
3039-303A+230B 3131-3132~2031 3133~1F89 3134~2032 3135-3136~1F89 3137-3139~2034 313A-313F~1F8A
3140~2026 3141-3143~203B 3144~2023 3145-314E~203C 314F-3163~1FEE 3164~2004 3165-3166~2051
3167-3168~1FA0 3169~1F9D 316A~1F9C 316B~1F98 316C~1F95 316D~1F94 316E~2052 316F~1F92 3170~1F91
3171-3172~2054 3173~2053 3174-3175~2052 3176~204F 3177~204E 3178-317C~204D 317D~204B 317E~2048
317F~203F 3180~2039 3181~2035 3182-3183~1F91 3184-3186~202D 3187-3188~2003 3189~2001
318A-318B~1FF9 318C~1FF8 318D~1FEF 318E~1FED A69C~A252 A69D~A251 A770~1 A7F2~A7AF A7F3~A7AD
A7F4~A7A3 A7F8~A6D2 A7F9~A6A6 AB5C~435 AB5D~26 AB5E~A8F3 AB5F~D AB69~A8DC F900~6CB8 F901~920D
F902~6A38 F903~6C3B F904~8A33 F905~AAD3 F906~A521 F907~596B F908~596C F909~9FB8 F90A~6739
F90B~A384 F90C~9FC4 F90D~9717 F90E~82A5 F90F~798A F910~72D1 F911~7157 F912~701A F913~6884
F914~8F12 F915~8BFA F916~883D F917~8539 F918~74DB F919~67AF F91A~5F29 F91B~AA99 F91C~A5A7
F91D~8E19 F91E~8703 F91F~72F2 F920~5B02 F921~9BD1 F922~8937 F923~7356 F924~6FC0 F925~965C
F926~774E F927~7108 F928~9A5E F929~9212 F92A~8BC0 F92B~862F F92C~685E F92D~A9A7 F92E~A777
F92F~A651 F930~946C F931~8E5E F932~8722 F933~824C F934~7933 F935~732F F936~72DA F937~6B48
F938~6206 F939~5DCA F93A~5B40 F93B~80AF F93C~7FBD F93D~7B9D F93E~7575 F93F~663B F940~5AC1
F941~6E6B F942~A063 F943~9A3F F944~7CE4 F945~78C7 F946~86E4 F947~807D F948~6C86 F949~6252
F94A~A072 F94B~9CE9 F94C~8F39 F94D~8B73 F94E~8A3F F94F~7C20 F950~7B19 F951~6306 F952~A680
F953~78C8 F954~A778 F955~A789 F956~7F3A F957~7B99 F958~7567 F959~62E4 F95A~6DDA F95B~968C
F95C~8F5A F95D~6E5F F95E~AB25 F95F~9D78 F960~994E F961~85DA F962~83F2 F963~A64C F964~8069
F965~A9A6 F966~99BD F967~AB5A F968~8C9C F969~93F1 F96A~7C48 F96B~A5A8 F96C~A10E F96D~826C
F96E~7525 F96F~6EC5 F970~8DB6 F971~69C1 F972~8CEA F973~9675 F974~768F F975~95D5 F976~8411
F977~AAC9 F978~A80F F979~A7B0 F97A~90F9 F97B~7C94 F97C~770D F97D~6EAB F97E~67AF F97F~A68A
F980~A53E F981~A00E F982~9A96 F983~93BE F984~8986 F985~805B F986~63D9 F987~5F1D F988~5AF1
F989~5ABB F98A~A6EF F98B~92C5 F98C~8E15 F98D~6A2B F98E~9B1A F98F~97FF F990~9790 F991~94F7
F992~8A6F F993~884A F994~850B F995~7FCB F996~7BA2 F997~7928 F998~6A72 F999~74AB F99A~6977
F99B~6651 F99C~A785 F99D~A6FA F99E~A4E1 F99F~88D7 F9A0~70DE F9A1~6EF7 F9A2~9AD9 F9A3~99AE
F9A4~9629 F9A5~8DF7 F9A6~7D68 F9A7~8632 F9A8~AAC4 F9A9~A2B0 F9AA~9DC3 F9AB~9BF1 F9AC~9990
F9AD~85FB F9AE~8545 F9AF~7A15 F9B0~796A F9B1~677D F9B2~62BC F9B3~626B F9B4~619C F9B5~AA2A
F9B6~8008 F9B7~6803 F9B8~6300 F9B9~98D8 F9BA~AB34 F9BB~A8E1 F9BC~9DCE F9BD~9D7E F9BE~9425
F9BF~8FBD F9C0~87F2 F9C1~837F F9C2~74C6 F9C3~6947 F9C4~5A37 F9C5~933D F9C6~6398 F9C7~A73E
F9C8~924D F9C9~91D6 F9CA~8C89 F9CB~8B2F F9CC~85C3 F9CD~8474 F9CE~8163 F9CF~7CBF F9D0~6172
F9D1~A864 F9D2~97A4 F9D3~635B F9D4~A9A9 F9D5~9CBC F9D6~8BEC F9D7~6AAD F9D8~9A4D F9D9~9895
F9DA~91C3 F9DB~8654 F9DC~6356 F9DD~A7B4 F9DE~A5CF F9DF~9D7A F9E0~93CD F9E1~9293 F9E2~913A
F9E3~8CFE F9E4~85DE F9E5~8403 F9E6~7A6D F9E7~7118 F9E8~7107 F9E9~681D F9EA~6308 F9EB~A6AC
F9EC~8B32 F9ED~A5D0 F9EE~881E F9EF~8557 F9F0~73F6 F9F1~634E F9F2~5D9B F9F3~5B54 F9F4~925D
F9F5~8C2A F9F6~780E F9F7~7F2C F9F8~7ED8 F9F9~7D67 F9FA~873A F9FB~8962 F9FC~6EA4 F9FD~AB3D
F9FE~76C8 F9FF~A7C5 FA00~A7F9 FA01~9B5B FA02~972F FA03~7D2D FA04~9E7F FA05~8CE7 FA06~9352
FA07~6ACC FA08~71BC FA09~63BC FA0A~707F FA0B~9B38 FA0C~A8CC FA0D~A44D FA10~A1B6 FA12~939E
FA15~A837 FA16~86EC FA17~834D FA18~80DC FA19~80BB FA1A~80B5 FA1B~808C FA1C~62C6 FA1D~7D5F
FA1E~7A61 FA20~740E FA22~6F2A FA25~69ED FA26~6929 FA2A~613B FA2B~612F FA2C~6104 FA2D~5C79
FA2E~6950 FA2F~6378 FA30~AA82 FA31~A94A FA32~A8E5 FA33~A76A FA34~A750 FA35~A6E4 FA36~A499
FA37~A431 FA38~A3D0 FA39~A1F9 FA3A~A192 FA3B~9DD7 FA3C~9DCE FA3D~99A9 FA3E~98D6 FA3F~98B1
FA40~984E FA41~94F2 FA42~9460 FA43~93B2 FA44~91BF FA45~8CCE FA46~8C2C FA47~8B25 FA48~88DA
FA49~881E FA4A~8628 FA4B~81BA FA4C~810E FA4D~8104 FA4E~8106 FA4F~80FF FA50~80FA FA51~80F4
FA52-FA53~80C5 FA54~8014 FA55~7FD4 FA56~7E96 FA57~7C63 FA58~7C4F FA59~7C18 FA5A~7AE8 FA5B~7A56
FA5C~786F FA5D~77E4 FA5E~77E5 FA5F~7608 FA60~7150 FA61~70CB FA62~6F61 FA63~6F2A FA64~6D91
FA65~6D5D FA66~6AB0 FA67~6A2F FA68~6385 FA69~626A FA6A~622F FA6B~99F6 FA6C+14882 FA6D~7855
FA70~AC4A FA71~A8BC FA72~A90A FA73~AAF3 FA74~A92F FA75~A8F5 FA76~A7AF FA77~A77D FA78~A4DB
FA79~A524 FA7A~A4E1 FA7B~A499 FA7C~A222 FA7D~A1CA FA7E~A13A FA7F~A12B FA80~A01E FA81~9F59
FA82~9BB0 FA83~9BAA FA84~9B1B FA85~9AD8 FA86~99AE FA87~9939 FA88~9980 FA89~98FB FA8A~992A
FA8B~9899 FA8C~9858 FA8D~96C9 FA8E~9672 FA8F~963D FA90~953A FA91~941D FA92~937B FA93~9378
FA94~933E FA95~8F1C FA96~8EDC FA97~8D56 FA98~8BBD FA99~8BCE FA9A~8B78 FA9B~8A7D FA9C~892E
FA9D~82F6 FA9E~8869 FA9F~87F0 FAA0~8776 FAA1~8630 FAA2~859C FAA3~8568 FAA4~8487 FAA5~8486
FAA6~83DC FAA7~83CC FAA8~83B4 FAA9~835F FAAA~836A FAAB~81DF FAAC~7FFB FAAD~7EED FAAE~7E33
FAAF~7D54 FAB0~7CBC FAB1~7B73 FAB2~7AAD FAB3~7761 FAB4~76C5 FAB5~733C FAB6~7175 FAB7~7131
FAB8~7122 FAB9~6FFA FABA~6FC2 FABB~6FF0 FABC~6FBB FABD~6FBF FABE~6FD1 FABF~6F86 FAC0~6F36
FAC1~6DB9 FAC2~6B8A FAC3~6A51 FAC4~692B FAC5~684F FAC6~644A FAC7~63E4 FAC8~6372 FAC9~62EE
FACA~62CB FACB~62C0 FACC~6291 FACD~5FBB FACE~5B32 FACF+12D7B FAD0+12D74 FAD1+13904 FAD2~BF35
FAD3~BABB FAD4~BA9B FAD5+15774 FAD6+161FA FAD7+183FC FAD8~5B95 FAD9~5B4B FB20~F53E FB21~F551
FB22-FB23~F54F FB24-FB26~F549 FB27~F53F FB28~F53E FB50~F4DF FB51~F4E0 FB52~F4D7 FB53~F4D8
FB54~F4D9 FB55~F4DA FB56~F4D8 FB57~F4D9 FB58~F4DA FB59~F4DB FB5A~F4DA FB5B~F4DB FB5C~F4DC
FB5D~F4DD FB5E~F4E4 FB5F~F4E5 FB60~F4E6 FB61~F4E7 FB62~F4E3 FB63~F4E4 FB64~F4E5 FB65~F4E6
FB66~F4ED FB67~F4EE FB68~F4EF FB69~F4F0 FB6A~F4C6 FB6B~F4C7 FB6C~F4C8 FB6D~F4C9 FB6E~F4C8
FB6F~F4C9 FB70~F4CA FB71~F4CB FB72~F4EE FB73~F4EF FB74~F4F0 FB75~F4F1 FB76~F4F3 FB77~F4F4
FB78~F4F5 FB79~F4F6 FB7A~F4F4 FB7B~F4F5 FB7C~F4F6 FB7D-FB7E~F4F7 FB7F~F4F8 FB80~F4F9 FB81~F4FA
FB82~F4F5 FB83~F4F6 FB84~F4F8 FB85~F4F9 FB86~F4F8 FB87~F4F9 FB88~F500 FB89~F501 FB8A~F4F2
FB8B~F4F3 FB8C~F4FB FB8D~F4FC FB8E~F4E5 FB8F~F4E6 FB90~F4E7 FB91~F4E8 FB92~F4E3 FB93~F4E4
FB94~F4E5 FB95~F4E6 FB96~F4E3 FB97~F4E4 FB98~F4E5 FB99~F4E6 FB9A~F4E9 FB9B~F4EA FB9C~F4EB
FB9D~F4EC FB9E~F4E4 FB9F-FBA0~F4E5 FBA1~F4E6 FBA2~F4E7 FBA3~F4E8 FBA6~F4E5 FBA7~F4E6 FBA8~F4E7
FBA9~F4E8 FBAA~F4EC FBAB~F4ED FBAC~F4EE FBAD~F4EF FBAE~F4DC FBAF~F4DD FBD3~F526 FBD4~F527
FBD5~F528 FBD6~F529 FBD7~F510 FBD8~F511 FBD9~F513 FBDA~F514 FBDB~F513 FBDC~F514 FBDE~F513
FBDF~F514 FBE0~F51B FBE1~F51C FBE2~F519 FBE3~F51A FBE4~F514 FBE5~F515 FBE6~F516 FBE7~F517
FBE8~F59F FBE9~F5A0 FBFC~F530 FBFD~F531 FBFE~F532 FBFF~F533 FE33~FDD4 FE34~FDD5 FE4D~FDEE
FE4E~FDEF FE4F~FDF0 FE80~F85F FE8D~F866 FE8E-FE8F~F867 FE90~F868 FE91~F869 FE92-FE93~F86A
FE94-FE95~F86B FE96~F86C FE97~F86D FE98-FE99~F86E FE9A~F86F FE9B~F870 FE9C-FE9D~F871 FE9E~F872
FE9F~F873 FEA0-FEA1~F874 FEA2~F875 FEA3~F876 FEA4-FEA5~F877 FEA6~F878 FEA7~F879 FEA8-FEA9~F87A
FEAA-FEAB~F87B FEAC-FEAD~F87C FEAE-FEAF~F87D FEB0-FEB1~F87E FEB2~F87F FEB3~F880 FEB4-FEB5~F881
FEB6~F882 FEB7~F883 FEB8-FEB9~F884 FEBA~F885 FEBB~F886 FEBC-FEBD~F887 FEBE~F888 FEBF~F889
FEC0-FEC1~F88A FEC2~F88B FEC3~F88C FEC4-FEC5~F88D FEC6~F88E FEC7~F88F FEC8-FEC9~F890 FECA~F891
FECB~F892 FECC-FECD~F893 FECE~F894 FECF~F895 FED0~F896 FED1~F890 FED2~F891 FED3~F892
FED4-FED5~F893 FED6~F894 FED7~F895 FED8-FED9~F896 FEDA~F897 FEDB~F898 FEDC-FEDD~F899 FEDE~F89A
FEDF~F89B FEE0-FEE1~F89C FEE2~F89D FEE3~F89E FEE4-FEE5~F89F FEE6~F8A0 FEE7~F8A1 FEE8-FEE9~F8A2
FEEA~F8A3 FEEB~F8A4 FEEC-FEED~F8A5 FEEE-FEEF~F8A6 FEF0-FEF1~F8A7 FEF2~F8A8 FEF3~F8A9 FEF4~F8AA
FF10-FF19~FEE0 FF21-FF3A~FEE0 FF3F~FEE0 FF41-FF5A~FEE0 FF66~CE74 FF67~CEC6 FF68~CEC5 FF69~CEC4
FF6A~CEC3 FF6B~CEC2 FF6C~CE89 FF6D~CE88 FF6E~CE87 FF6F~CEAC FF70~CE74 FF71~CECF FF72~CECE
FF73~CECD FF74~CECC FF75-FF76~CECB FF77~CECA FF78~CEC9 FF79~CEC8 FF7A~CEC7 FF7B~CEC6 FF7C~CEC5
FF7D~CEC4 FF7E~CEC3 FF7F~CEC2 FF80~CEC1 FF81~CEC0 FF82~CEBE FF83~CEBD FF84~CEBC FF85-FF8A~CEBB
FF8B~CEB9 FF8C~CEB7 FF8D~CEB5 FF8E~CEB3 FF8F-FF93~CEB1 FF94~CEB0 FF95~CEAF FF96-FF9B~CEAE
FF9C~CEAD FF9D~CEAA FF9E-FF9F~CF05 FFA0~EE40 FFA1-FFA2~EEA1 FFA3~EDF9 FFA4~EEA2 FFA5-FFA6~EDF9
FFA7-FFA9~EEA4 FFAA-FFAF~EDFA FFB0~EE96 FFB1-FFB3~EEAB FFB4~EE93 FFB5-FFBE~EEAC FFC2-FFC7~EE61
FFCA-FFCF~EE63 FFD2-FFD7~EE65 FFDA-FFDC~EE67 10781-10782~104B1 10783~1069D 10784~104EB 10785~10532
10787~104E4 10788~5C22 10789~104E4 1078A~104E6 1078B-1078C~10535 1078D~E9FC 1078E~10536
1078F~10531 10790~104E7 10791~1052D 10792~10530 10793~10533 10794~104F9 10795~1066E 10796~104FA
10797~10530 10798~10514 10799-1079A~104EF 1079B~1052F 1079C+D768 1079D~600F 1079E~10530 1079F+D766
107A0~10512 107A1+D765 107A2~106AA 107A3-107A4~1052D 107A5~10734 107A6~1052C 107A7+D761
107A8-107A9~1052B 107AA~1052A 107AB~10503 107AC~10506 107AD~5C46 107AE~10507 107AF~10527
107B0~DB3F 107B2~10523 107B3-107B4~10512 107B5~1051D 107B6-107B8~105F6 107B9+D751 107BA+D764
1D400-1D419~1D3BF 1D41A-1D433~1D3B9 1D434-1D44D~1D3F3 1D44E-1D454~1D3ED 1D456-1D467~1D3ED
1D468-1D481~1D427 1D482-1D49B~1D421 1D49C~1D45B 1D49E-1D49F~1D45B 1D4A2~1D45B 1D4A5-1D4A6~1D45B
1D4A9-1D4AC~1D45B 1D4AE-1D4B5~1D45B 1D4B6-1D4B9~1D455 1D4BB~1D455 1D4BD-1D4C3~1D455
1D4C5-1D4CF~1D455 1D4D0-1D4E9~1D48F 1D4EA-1D503~1D489 1D504-1D505~1D4C3 1D507-1D50A~1D4C3
1D50D-1D514~1D4C3 1D516-1D51C~1D4C3 1D51E-1D537~1D4BD 1D538-1D539~1D4F7 1D53B-1D53E~1D4F7
1D540-1D544~1D4F7 1D546~1D4F7 1D54A-1D550~1D4F7 1D552-1D56B~1D4F1 1D56C-1D585~1D52B
1D586-1D59F~1D525 1D5A0-1D5B9~1D55F 1D5BA-1D5D3~1D559 1D5D4-1D5ED~1D593 1D5EE-1D607~1D58D
1D608-1D621~1D5C7 1D622-1D63B~1D5C1 1D63C-1D655~1D5FB 1D656-1D66F~1D5F5 1D670-1D689~1D62F
1D68A-1D6A3~1D629 1D6A4~1D573 1D6A5~1D46E 1D6A8-1D6B8~1D317 1D6B9~1D321 1D6BA-1D6C0~1D317
1D6C2-1D6DA~1D311 1D6DC~1D327 1D6DD~1D325 1D6DE~1D324 1D6DF~1D319 1D6E0~1D31F 1D6E1~1D321
1D6E2-1D6F2~1D351 1D6F3~1D35B 1D6F4-1D6FA~1D351 1D6FC-1D714~1D34B 1D716~1D361 1D717~1D35F
1D718~1D35E 1D719~1D353 1D71A~1D359 1D71B~1D35B 1D71C-1D72C~1D38B 1D72D~1D395 1D72E-1D734~1D38B
1D736-1D74E~1D385 1D750~1D39B 1D751~1D399 1D752~1D398 1D753~1D38D 1D754~1D393 1D755~1D395
1D756-1D766~1D3C5 1D767~1D3CF 1D768-1D76E~1D3C5 1D770-1D788~1D3BF 1D78A~1D3D5 1D78B~1D3D3
1D78C~1D3D2 1D78D~1D3C7 1D78E~1D3CD 1D78F~1D3CF 1D790-1D7A0~1D3FF 1D7A1~1D409 1D7A2-1D7A8~1D3FF
1D7AA-1D7C2~1D3F9 1D7C4~1D40F 1D7C5~1D40D 1D7C6~1D40C 1D7C7~1D401 1D7C8~1D407 1D7C9~1D409
1D7CA-1D7CB~1D3EE 1D7CE-1D7D7~1D79E 1D7D8-1D7E1~1D7A8 1D7E2-1D7EB~1D7B2 1D7EC-1D7F5~1D7BC
1D7F6-1D7FF~1D7C6 1EE00-1EE01~1E7D9 1EE02~1E7D6 1EE03~1E7D4 1EE05~1E7BD 1EE06~1E7D4 1EE07~1E7DA
1EE08~1E7D1 1EE09~1E7BF 1EE0A-1EE0D~1E7C7 1EE0E~1E7DB 1EE0F~1E7D6 1EE10~1E7CF 1EE11~1E7DC
1EE12~1E7D0 1EE13~1E7E2 1EE14~1E7E0 1EE15-1EE16~1E7EB 1EE17~1E7E9 1EE18~1E7E8 1EE19~1E7E3
1EE1A~1E7E2 1EE1B~1E7E1 1EE1C~1E7AE 1EE1D~1E763 1EE1E~1E77D 1EE1F~1E7B0 1EE21~1E7F9 1EE22~1E7F6
1EE24~1E7DD 1EE27~1E7FA 1EE29~1E7DF 1EE2A-1EE2D~1E7E7 1EE2E~1E7FB 1EE2F~1E7F6 1EE30~1E7EF
1EE31~1E7FC 1EE32~1E7F0 1EE34~1E800 1EE35-1EE36~1E80B 1EE37~1E809 1EE39~1E803 1EE3B~1E801
1EE42~1E816 1EE47~1E81A 1EE49~1E7FF 1EE4B~1E807 1EE4D~1E807 1EE4E~1E81B 1EE4F~1E816 1EE51~1E81C
1EE52~1E810 1EE54~1E820 1EE57~1E829 1EE59~1E823 1EE5B~1E821 1EE5D~1E7A3 1EE5F~1E7F0 1EE61~1E839
1EE62~1E836 1EE64~1E81D 1EE67~1E83A 1EE68~1E831 1EE69~1E81F 1EE6A~1E827 1EE6C-1EE6D~1E827
1EE6E~1E83B 1EE6F~1E836 1EE70~1E82F 1EE71~1E83C 1EE72~1E830 1EE74~1E840 1EE75-1EE76~1E84B
1EE77~1E849 1EE79~1E843 1EE7A~1E842 1EE7B~1E841 1EE7C~1E80E 1EE7E~1E7DD 1EE80-1EE81~1E859
1EE82~1E856 1EE83~1E854 1EE84-1EE85~1E83D 1EE86~1E854 1EE87~1E85A 1EE88~1E851 1EE89~1E83F
1EE8B-1EE8D~1E847 1EE8E~1E85B 1EE8F~1E856 1EE90~1E84F 1EE91~1E85C 1EE92~1E850 1EE93~1E862
1EE94~1E860 1EE95-1EE96~1E86B 1EE97~1E869 1EE98~1E868 1EE99~1E863 1EE9A~1E862 1EE9B~1E861
1EEA1~1E879 1EEA2~1E876 1EEA3~1E874 1EEA5~1E85D 1EEA6~1E874 1EEA7~1E87A 1EEA8~1E871 1EEA9~1E85F
1EEAB-1EEAD~1E867 1EEAE~1E87B 1EEAF~1E876 1EEB0~1E86F 1EEB1~1E87C 1EEB2~1E870 1EEB3~1E882
1EEB4~1E880 1EEB5-1EEB6~1E88B 1EEB7~1E889 1EEB8~1E888 1EEB9~1E883 1EEBA~1E882 1EEBB~1E881
1FBF0-1FBF9~1FBC0 2F800~2A9C3 2F801~2A9C9 2F802~2A9C1 2F803~F6E1 2F804~2A8A4 2F805~2A857
2F806~2A84B 2F807~2A805 2F808~2A78E 2F809~2A770 2F80A~2A723 2F80B~2A73C 2F80C~2C36E 2F80D~F1D3
2F80E~2A6C1 2F80F~2A6BB 2F810~2A6AC 2F811~2A69A 2F812~F2F6 2F813~2C35A 2F814~2A6AD 2F815~2A688
2F816~F2CB 2F817~2A680 2F818~2A674 2F819~2A94D 2F81A~2A66E 2F81B~2A666 2F81C~663D 2F81D~2A628
2F81E~2A61B 2F81F~2C340 2F820~2A5E5 2F821~2A5DB 2F822~2A5B0 2F823~2A5AC 2F824~2C30F 2F825~2A55E
2F826~2A55D 2F827~2A543 2F828~2A52E 2F829-2F82A~2A524 2F82B~2A514 2F82C~2A4E3 2F82D~2A4DC
2F82E~2A4D4 2F82F~2A4BC 2F830~2A4B3 2F831~2A4B2 2F832~2A4B3 2F833~2A4B4 2F834~EE08 2F835~287C5
2F836~2A46C 2F837~2A458 2F838~ECD5 2F839~2A44E 2F83A~2A449 2F83B~2A435 2F83C~2A39E 2F83D~2A405
2F83E~2A3F6 2F83F~2A3D7 2F840~2A39E 2F841~2A34B 2F842~2A332 2F843~2A2F0 2F844~2A2E1 2F845~2A2C1
2F846~2A2C2 2F847~2A2AE 2F848~2A29D 2F849~2A296 2F84A~2A288 2F84B~2A135 2F84C~2A246 2F84D~2A136
2F84E~2A1FD 2F84F~2A1DB 2F850~2A649 2F851~29F63 2F852~2A084 2F853~2A05F 2F854~2A047 2F855~2A0CA
2F856~2A024 2F857~2A026 2F858~29FAC 2F859~E375 2F85A~29F68 2F85B~29F64 2F85C~29F56 2F85D~29F43
2F85E~29F3C 2F85F~29EFD 2F860~E1B8 2F861~E177 2F862~29E76 2F863~29E48 2F864~29E3D 2F865~29E8D
2F866~29E00 2F867~2C179 2F868~2C16C 2F869~29D61 2F86A~29D2C 2F86B~29D2D 2F86C~DEA4 2F86D~29CAA
2F86E~29C96 2F86F~29C88 2F870~29C7D 2F871~DD59 2F872~29C73 2F873~29C6D 2F874~29921 2F875~29C53
2F876~2C0F5 2F877~29C17 2F878~29C0A 2F879~29BB9 2F87A~29BED 2F87B~DA97 2F87C~29B39 2F87D~DA97
2F87E~29B10 2F87F~29B14 2F880~29B04 2F881-2F882~29AA0 2F883~2C054 2F884~29A87 2F885~29A5D
2F886~29A49 2F887~29A1E 2F888~2C026 2F889~D706 2F88A~2C00E 2F88B~299DB 2F88C~299D9 2F88D~299D7
2F88E~299C4 2F88F~54FD 2F890~29992 2F891~D560 2F892~D561 2F893~27692 2F894~29972 2F895~29973
2F896~2BFCF 2F897~C5DF 2F898~96BE 2F899~29937 2F89A~2992F 2F89B~2BFB8 2F89C~29902 2F89D~298D0
2F89E~298C7 2F89F~298A6 2F8A0~2981F 2F8A1~2BF67 2F8A2~2BF86 2F8A3~2980F 2F8A4~D1D0 2F8A5~297DE
2F8A6~2975E 2F8A7~2975B 2F8A8~2975A 2F8A9~2975D 2F8AA~29730 2F8AB~2971D 2F8AC~296FA 2F8AD~29709
2F8AE~296FF 2F8AF~296D1 2F8B0~296BE 2F8B1~296BB 2F8B2~296A2 2F8B3~29698 2F8B4~29657 2F8B5~29604
2F8B6~295E2 2F8B7~29567 2F8B8~CDAC 2F8B9~2957C 2F8BA~295BE 2F8BB~29553 2F8BC~29539 2F8BD~294D9
2F8BE~CCCD 2F8BF~2949D 2F8C0~294FB 2F8C1~29518 2F8C2~2BE94 2F8C3~2945A 2F8C4~29446 2F8C5~29428
2F8C6~2944F 2F8C7~2BE5B 2F8C8~29379 2F8C9~2935D 2F8CA~C8C0 2F8CB~292E8 2F8CC~291D4 2F8CD~29284
2F8CE~2BDB5 2F8CF~2923E 2F8D0~2BDC8 2F8D1~2BDED 2F8D2~2A740 2F8D3~2A73E 2F8D4~291D4 2F8D5~29239
2F8D6~27829 2F8D7~2B4FE 2F8D8~291C1 2F8D9~291BE 2F8DA~291B9 2F8DB~2917D 2F8DC~29189 2F8DD~C51A
2F8DE~2BD95 2F8DF~290E5 2F8E0~2915B 2F8E1~2908F 2F8E2~2905D 2F8E3~C476 2F8E4~29056 2F8E5~290C6
2F8E6~28FD2 2F8E7~2BD4A 2F8E8~28FA6 2F8E9~28F46 2F8EA~28F00 2F8EB~28E43 2F8EC~C249 2F8ED~28E12
2F8EE~2BCD6 2F8EF~28DCE 2F8F0~C049 2F8F1~28D9D 2F8F2~2BCA4 2F8F3~28D81 2F8F4~28D55
2F8F5-2F8F6~28D3B 2F8F7~BE6A 2F8F8~DBED 2F8F9~BDFF 2F8FA~28CAC 2F8FB~BC3F 2F8FC~28C3D 2F8FD~28C30
2F8FE~28C97 2F8FF~28BE9 2F900~28BC2 2F901~28B8A 2F902~28BC1 2F903~28B9A 2F904~28B8C 2F905~28B80
2F906~BBE8 2F907~28BD3 2F908~28AD9 2F909~28A9B 2F90A~2BBD7 2F90B~28A40 2F90C~28A45 2F90D~BA3C
2F90E~28B15 2F90F~289A1 2F910~B9B2 2F911~B983 2F912~2894C 2F913~288DA 2F914~288F6 2F915~288FA
2F916~2BB80 2F917~288CD 2F918~2889B 2F919~288A2 2F91A~2886D 2F91B~F3F6 2F91C~287D7 2F91D~B6BA
2F91E~28782 2F91F~B574 2F920~286F8 2F921~286EC 2F922~286D2 2F923~B31B 2F924~286A4 2F925~28690
2F926~B1F1 2F927~B113 2F928~285AE 2F929~2859E 2F92A~2BA7E 2F92B~28586 2F92C~2BA74 2F92D~2BA75
2F92E~284E7 2F92F~284D3 2F930~284BF 2F931~284AC 2F932~28468 2F933~2BA18 2F934~28410 2F935~ACFF
2F936~283F8 2F937~ACA5 2F938~283C8 2F939~D79A 2F93A~2832A 2F93B~A99A 2F93C~A984 2F93D~A8F9
2F93E~2B942 2F93F~2B937 2F940~2824C 2F941~A84E 2F942~A850 2F943~A82A 2F944~A811 2F945-2F946~28227
2F947~28228 2F948~281FE 2F949~2B910 2F94A~281BF 2F94B~2B905 2F94C~2B8B6 2F94D~A530 2F94E~28100
2F94F~280C3 2F950~28084 2F951~2B86E 2F952~A32C 2F953~27FFD 2F954~A2BA 2F955~A290 2F956~27FC7
2F957~27F6C 2F958~2B829 2F959~27F19 2F95A~27F10 2F95B~27F0C 2F95C~9FE0 2F95D~9EB6 2F95E~9EB7
2F95F~27E71 2F960~2B75E 2F961~9DB6 2F962~27D9C 2F963~27D9A 2F964~2B73D 2F965~9CE5 2F966~27C94
2F967~2B6C7 2F968~27C80 2F969~27C86 2F96A~27C6A 2F96B~99E5 2F96C~27C09 2F96D~2B66C 2F96E~27BA7
2F96F~27B6D 2F970~27B2B 2F971~2B63D 2F972~974A 2F973~972C 2F974~2B61B 2F975~969C 2F976~279FC
2F977~9639 2F978~279E3 2F979~2797F 2F97A~27975 2F97B~94A1 2F97C~9459 2F97D~2791D 2F97E~93D6
2F97F~2790F 2F980~C621 2F981~2B5AC 2F982~278D0 2F983~27880 2F984~2B579 2F985~27847 2F986~29ED1
2F987~91E0 2F988~91D3 2F989~C5F6 2F98A~C5EE 2F98B~2778A 2F98C~27788 2F98D~269EF 2F98E~2B523
2F98F~276FE 2F990~27705 2F991~276F4 2F992~2A6DF 2F993~276E2 2F994~276E1 2F995~276D8 2F996~276B0
2F997~8E5B 2F998~276B3 2F999~2767C 2F99A~27637 2F99B~275EE 2F99C~27679 2F99D~275E0 2F99E~275B7
2F99F~27548 2F9A0~2764D 2F9A1~275D7 2F9A2~275D6 2F9A3~275C7 2F9A4~8D6E 2F9A5~8C3A 2F9A6~8CD1
2F9A7~2B47C 2F9A8~274B7 2F9A9~274B6 2F9AA~27494 2F9AB~85E1 2F9AC~27448 2F9AD~8A81 2F9AE~2B451
2F9AF~2B44E 2F9B0~89FF 2F9B1~88DF 2F9B2~2B447 2F9B3~27363 2F9B4~27358 2F9B5~2734E 2F9B6~2734D
2F9B7~2730E 2F9B8~27330 2F9B9~272AB 2F9BA~272D8 2F9BB~27242 2F9BC~27294 2F9BD~27252 2F9BE~27238
2F9BF~2B3E8 2F9C0~271DF 2F9C1~271C0 2F9C2~2B3C9 2F9C3~27163 2F9C4~27161 2F9C5~835E 2F9C6~270EF
2F9C7~270E9 2F9C8~2B393 2F9C9~270CF 2F9CA~2C50F 2F9CB~811D 2F9CC~8066 2F9CD~2B30F 2F9CE~2B307
2F9CF~26F2F 2F9D0~26EE3 2F9D1~26E47 2F9D2~26D7D 2F9D3~7D2B 2F9D4~26D29 2F9D5~26D14 2F9D6~26CBB
2F9D7~26C60 2F9D8~7AA9 2F9D9~F1D5 2F9DA~26C0F 2F9DB~26C1F 2F9DC~26BEC 2F9DD~F0FF 2F9DE~26B0A
2F9DF~26AA7 2F9E0~740E 2F9E1~73F4 2F9E2~2694E 2F9E3~268F2 2F9E4~268D3 2F9E5~72B7 2F9E6~268CB
2F9E7~267AF 2F9E8-2F9E9~26711 2F9EA~2676E 2F9EB~265F2 2F9EC~265D7 2F9ED~6DF3 2F9EE~26463
2F9EF~2B05A 2F9F0~26439 2F9F1~6C7A 2F9F2~2B00C 2F9F3~26330 2F9F4~29C42 2F9F5~262D2 2F9F6~68B1
2F9F7~67DD 2F9F8~2AF8A 2F9F9~2AF83 2F9FA~2621A 2F9FB~65F1 2F9FC~2AF4A 2F9FD~6567 2F9FE~261F3
2F9FF~261F4 2FA00~261D7 2FA01~644B 2FA02~26120 2FA03~2AED0 2FA04~260DB 2FA05~2605E 2FA06~26044
2FA07~26009 2FA08~2AE3A 2FA09~5ED9 2FA0A~25EF8 2FA0B~25DCB 2FA0C~25D0F 2FA0D~2AD3F 2FA0E~2AD21
2FA0F~25CA8 2FA10~5942 2FA11~2AD19 2FA12~590D 2FA13~5805 2FA14~5783 2FA15~25B5A 2FA16~2ACC0
2FA17~25B1E 2FA18~25B1A 2FA19~25B14 2FA1A~25B0B 2FA1B~25B05 2FA1C~25AE1 2FA1D~541D"

/-- Characters that become several. -/
def decompositionExpansions : String := "
C0=41.300 C1=41.301 C2=41.302 C3=41.303 C4=41.308 C5=41.30A C7=43.327 C8=45.300 C9=45.301
CA=45.302 CB=45.308 CC=49.300 CD=49.301 CE=49.302 CF=49.308 D1=4E.303 D2=4F.300 D3=4F.301
D4=4F.302 D5=4F.303 D6=4F.308 D9=55.300 DA=55.301 DB=55.302 DC=55.308 DD=59.301 E0=61.300
E1=61.301 E2=61.302 E3=61.303 E4=61.308 E5=61.30A E7=63.327 E8=65.300 E9=65.301 EA=65.302
EB=65.308 EC=69.300 ED=69.301 EE=69.302 EF=69.308 F1=6E.303 F2=6F.300 F3=6F.301 F4=6F.302
F5=6F.303 F6=6F.308 F9=75.300 FA=75.301 FB=75.302 FC=75.308 FD=79.301 FF=79.308 100=41.304
101=61.304 102=41.306 103=61.306 104=41.328 105=61.328 106=43.301 107=63.301 108=43.302 109=63.302
10A=43.307 10B=63.307 10C=43.30C 10D=63.30C 10E=44.30C 10F=64.30C 112=45.304 113=65.304 114=45.306
115=65.306 116=45.307 117=65.307 118=45.328 119=65.328 11A=45.30C 11B=65.30C 11C=47.302 11D=67.302
11E=47.306 11F=67.306 120=47.307 121=67.307 122=47.327 123=67.327 124=48.302 125=68.302 128=49.303
129=69.303 12A=49.304 12B=69.304 12C=49.306 12D=69.306 12E=49.328 12F=69.328 130=49.307 132=49.4A
133=69.6A 134=4A.302 135=6A.302 136=4B.327 137=6B.327 139=4C.301 13A=6C.301 13B=4C.327 13C=6C.327
13D=4C.30C 13E=6C.30C 13F=4C.B7 140=6C.B7 143=4E.301 144=6E.301 145=4E.327 146=6E.327 147=4E.30C
148=6E.30C 149=2BC.6E 14C=4F.304 14D=6F.304 14E=4F.306 14F=6F.306 150=4F.30B 151=6F.30B 154=52.301
155=72.301 156=52.327 157=72.327 158=52.30C 159=72.30C 15A=53.301 15B=73.301 15C=53.302 15D=73.302
15E=53.327 15F=73.327 160=53.30C 161=73.30C 162=54.327 163=74.327 164=54.30C 165=74.30C 168=55.303
169=75.303 16A=55.304 16B=75.304 16C=55.306 16D=75.306 16E=55.30A 16F=75.30A 170=55.30B 171=75.30B
172=55.328 173=75.328 174=57.302 175=77.302 176=59.302 177=79.302 178=59.308 179=5A.301 17A=7A.301
17B=5A.307 17C=7A.307 17D=5A.30C 17E=7A.30C 1A0=4F.31B 1A1=6F.31B 1AF=55.31B 1B0=75.31B
1C4=44.5A.30C 1C5=44.7A.30C 1C6=64.7A.30C 1C7=4C.4A 1C8=4C.6A 1C9=6C.6A 1CA=4E.4A 1CB=4E.6A
1CC=6E.6A 1CD=41.30C 1CE=61.30C 1CF=49.30C 1D0=69.30C 1D1=4F.30C 1D2=6F.30C 1D3=55.30C 1D4=75.30C
1D5=55.308.304 1D6=75.308.304 1D7=55.308.301 1D8=75.308.301 1D9=55.308.30C 1DA=75.308.30C
1DB=55.308.300 1DC=75.308.300 1DE=41.308.304 1DF=61.308.304 1E0=41.307.304 1E1=61.307.304
1E2=C6.304 1E3=E6.304 1E6=47.30C 1E7=67.30C 1E8=4B.30C 1E9=6B.30C 1EA=4F.328 1EB=6F.328
1EC=4F.328.304 1ED=6F.328.304 1EE=1B7.30C 1EF=292.30C 1F0=6A.30C 1F1=44.5A 1F2=44.7A 1F3=64.7A
1F4=47.301 1F5=67.301 1F8=4E.300 1F9=6E.300 1FA=41.30A.301 1FB=61.30A.301 1FC=C6.301 1FD=E6.301
1FE=D8.301 1FF=F8.301 200=41.30F 201=61.30F 202=41.311 203=61.311 204=45.30F 205=65.30F 206=45.311
207=65.311 208=49.30F 209=69.30F 20A=49.311 20B=69.311 20C=4F.30F 20D=6F.30F 20E=4F.311 20F=6F.311
210=52.30F 211=72.30F 212=52.311 213=72.311 214=55.30F 215=75.30F 216=55.311 217=75.311 218=53.326
219=73.326 21A=54.326 21B=74.326 21E=48.30C 21F=68.30C 226=41.307 227=61.307 228=45.327 229=65.327
22A=4F.308.304 22B=6F.308.304 22C=4F.303.304 22D=6F.303.304 22E=4F.307 22F=6F.307 230=4F.307.304
231=6F.307.304 232=59.304 233=79.304 344=308.301 386=391.301 388=395.301 389=397.301 38A=399.301
38C=39F.301 38E=3A5.301 38F=3A9.301 390=3B9.308.301 3AA=399.308 3AB=3A5.308 3AC=3B1.301
3AD=3B5.301 3AE=3B7.301 3AF=3B9.301 3B0=3C5.308.301 3CA=3B9.308 3CB=3C5.308 3CC=3BF.301
3CD=3C5.301 3CE=3C9.301 3D3=3A5.301 3D4=3A5.308 400=415.300 401=415.308 403=413.301 407=406.308
40C=41A.301 40D=418.300 40E=423.306 419=418.306 439=438.306 450=435.300 451=435.308 453=433.301
457=456.308 45C=43A.301 45D=438.300 45E=443.306 476=474.30F 477=475.30F 4C1=416.306 4C2=436.306
4D0=410.306 4D1=430.306 4D2=410.308 4D3=430.308 4D6=415.306 4D7=435.306 4DA=4D8.308 4DB=4D9.308
4DC=416.308 4DD=436.308 4DE=417.308 4DF=437.308 4E2=418.304 4E3=438.304 4E4=418.308 4E5=438.308
4E6=41E.308 4E7=43E.308 4EA=4E8.308 4EB=4E9.308 4EC=42D.308 4ED=44D.308 4EE=423.304 4EF=443.304
4F0=423.308 4F1=443.308 4F2=423.30B 4F3=443.30B 4F4=427.308 4F5=447.308 4F8=42B.308 4F9=44B.308
587=565.582 622=627.653 623=627.654 624=648.654 625=627.655 626=64A.654 675=627.674 676=648.674
677=6C7.674 678=64A.674 6C0=6D5.654 6C2=6C1.654 6D3=6D2.654 929=928.93C 931=930.93C 934=933.93C
958=915.93C 959=916.93C 95A=917.93C 95B=91C.93C 95C=921.93C 95D=922.93C 95E=92B.93C 95F=92F.93C
9CB=9C7.9BE 9CC=9C7.9D7 9DC=9A1.9BC 9DD=9A2.9BC 9DF=9AF.9BC A33=A32.A3C A36=A38.A3C A59=A16.A3C
A5A=A17.A3C A5B=A1C.A3C A5E=A2B.A3C B48=B47.B56 B4B=B47.B3E B4C=B47.B57 B5C=B21.B3C B5D=B22.B3C
B94=B92.BD7 BCA=BC6.BBE BCB=BC7.BBE BCC=BC6.BD7 C48=C46.C56 CC0=CBF.CD5 CC7=CC6.CD5 CC8=CC6.CD6
CCA=CC6.CC2 CCB=CC6.CC2.CD5 D4A=D46.D3E D4B=D47.D3E D4C=D46.D57 DDA=DD9.DCA DDC=DD9.DCF
DDD=DD9.DCF.DCA DDE=DD9.DDF E33=E4D.E32 EB3=ECD.EB2 EDC=EAB.E99 EDD=EAB.EA1 F43=F42.FB7
F4D=F4C.FB7 F52=F51.FB7 F57=F56.FB7 F5C=F5B.FB7 F69=F40.FB5 F73=F71.F72 F75=F71.F74 F76=FB2.F80
F77=FB2.F71.F80 F78=FB3.F80 F79=FB3.F71.F80 F81=F71.F80 F93=F92.FB7 F9D=F9C.FB7 FA2=FA1.FB7
FA7=FA6.FB7 FAC=FAB.FB7 FB9=F90.FB5 1026=1025.102E 1B06=1B05.1B35 1B08=1B07.1B35 1B0A=1B09.1B35
1B0C=1B0B.1B35 1B0E=1B0D.1B35 1B12=1B11.1B35 1B3B=1B3A.1B35 1B3D=1B3C.1B35 1B40=1B3E.1B35
1B41=1B3F.1B35 1B43=1B42.1B35 1E00=41.325 1E01=61.325 1E02=42.307 1E03=62.307 1E04=42.323
1E05=62.323 1E06=42.331 1E07=62.331 1E08=43.327.301 1E09=63.327.301 1E0A=44.307 1E0B=64.307
1E0C=44.323 1E0D=64.323 1E0E=44.331 1E0F=64.331 1E10=44.327 1E11=64.327 1E12=44.32D 1E13=64.32D
1E14=45.304.300 1E15=65.304.300 1E16=45.304.301 1E17=65.304.301 1E18=45.32D 1E19=65.32D
1E1A=45.330 1E1B=65.330 1E1C=45.327.306 1E1D=65.327.306 1E1E=46.307 1E1F=66.307 1E20=47.304
1E21=67.304 1E22=48.307 1E23=68.307 1E24=48.323 1E25=68.323 1E26=48.308 1E27=68.308 1E28=48.327
1E29=68.327 1E2A=48.32E 1E2B=68.32E 1E2C=49.330 1E2D=69.330 1E2E=49.308.301 1E2F=69.308.301
1E30=4B.301 1E31=6B.301 1E32=4B.323 1E33=6B.323 1E34=4B.331 1E35=6B.331 1E36=4C.323 1E37=6C.323
1E38=4C.323.304 1E39=6C.323.304 1E3A=4C.331 1E3B=6C.331 1E3C=4C.32D 1E3D=6C.32D 1E3E=4D.301
1E3F=6D.301 1E40=4D.307 1E41=6D.307 1E42=4D.323 1E43=6D.323 1E44=4E.307 1E45=6E.307 1E46=4E.323
1E47=6E.323 1E48=4E.331 1E49=6E.331 1E4A=4E.32D 1E4B=6E.32D 1E4C=4F.303.301 1E4D=6F.303.301
1E4E=4F.303.308 1E4F=6F.303.308 1E50=4F.304.300 1E51=6F.304.300 1E52=4F.304.301 1E53=6F.304.301
1E54=50.301 1E55=70.301 1E56=50.307 1E57=70.307 1E58=52.307 1E59=72.307 1E5A=52.323 1E5B=72.323
1E5C=52.323.304 1E5D=72.323.304 1E5E=52.331 1E5F=72.331 1E60=53.307 1E61=73.307 1E62=53.323
1E63=73.323 1E64=53.301.307 1E65=73.301.307 1E66=53.30C.307 1E67=73.30C.307 1E68=53.323.307
1E69=73.323.307 1E6A=54.307 1E6B=74.307 1E6C=54.323 1E6D=74.323 1E6E=54.331 1E6F=74.331
1E70=54.32D 1E71=74.32D 1E72=55.324 1E73=75.324 1E74=55.330 1E75=75.330 1E76=55.32D 1E77=75.32D
1E78=55.303.301 1E79=75.303.301 1E7A=55.304.308 1E7B=75.304.308 1E7C=56.303 1E7D=76.303
1E7E=56.323 1E7F=76.323 1E80=57.300 1E81=77.300 1E82=57.301 1E83=77.301 1E84=57.308 1E85=77.308
1E86=57.307 1E87=77.307 1E88=57.323 1E89=77.323 1E8A=58.307 1E8B=78.307 1E8C=58.308 1E8D=78.308
1E8E=59.307 1E8F=79.307 1E90=5A.302 1E91=7A.302 1E92=5A.323 1E93=7A.323 1E94=5A.331 1E95=7A.331
1E96=68.331 1E97=74.308 1E98=77.30A 1E99=79.30A 1E9A=61.2BE 1E9B=73.307 1EA0=41.323 1EA1=61.323
1EA2=41.309 1EA3=61.309 1EA4=41.302.301 1EA5=61.302.301 1EA6=41.302.300 1EA7=61.302.300
1EA8=41.302.309 1EA9=61.302.309 1EAA=41.302.303 1EAB=61.302.303 1EAC=41.323.302 1EAD=61.323.302
1EAE=41.306.301 1EAF=61.306.301 1EB0=41.306.300 1EB1=61.306.300 1EB2=41.306.309 1EB3=61.306.309
1EB4=41.306.303 1EB5=61.306.303 1EB6=41.323.306 1EB7=61.323.306 1EB8=45.323 1EB9=65.323
1EBA=45.309 1EBB=65.309 1EBC=45.303 1EBD=65.303 1EBE=45.302.301 1EBF=65.302.301 1EC0=45.302.300
1EC1=65.302.300 1EC2=45.302.309 1EC3=65.302.309 1EC4=45.302.303 1EC5=65.302.303 1EC6=45.323.302
1EC7=65.323.302 1EC8=49.309 1EC9=69.309 1ECA=49.323 1ECB=69.323 1ECC=4F.323 1ECD=6F.323
1ECE=4F.309 1ECF=6F.309 1ED0=4F.302.301 1ED1=6F.302.301 1ED2=4F.302.300 1ED3=6F.302.300
1ED4=4F.302.309 1ED5=6F.302.309 1ED6=4F.302.303 1ED7=6F.302.303 1ED8=4F.323.302 1ED9=6F.323.302
1EDA=4F.31B.301 1EDB=6F.31B.301 1EDC=4F.31B.300 1EDD=6F.31B.300 1EDE=4F.31B.309 1EDF=6F.31B.309
1EE0=4F.31B.303 1EE1=6F.31B.303 1EE2=4F.31B.323 1EE3=6F.31B.323 1EE4=55.323 1EE5=75.323
1EE6=55.309 1EE7=75.309 1EE8=55.31B.301 1EE9=75.31B.301 1EEA=55.31B.300 1EEB=75.31B.300
1EEC=55.31B.309 1EED=75.31B.309 1EEE=55.31B.303 1EEF=75.31B.303 1EF0=55.31B.323 1EF1=75.31B.323
1EF2=59.300 1EF3=79.300 1EF4=59.323 1EF5=79.323 1EF6=59.309 1EF7=79.309 1EF8=59.303 1EF9=79.303
1F00=3B1.313 1F01=3B1.314 1F02=3B1.313.300 1F03=3B1.314.300 1F04=3B1.313.301 1F05=3B1.314.301
1F06=3B1.313.342 1F07=3B1.314.342 1F08=391.313 1F09=391.314 1F0A=391.313.300 1F0B=391.314.300
1F0C=391.313.301 1F0D=391.314.301 1F0E=391.313.342 1F0F=391.314.342 1F10=3B5.313 1F11=3B5.314
1F12=3B5.313.300 1F13=3B5.314.300 1F14=3B5.313.301 1F15=3B5.314.301 1F18=395.313 1F19=395.314
1F1A=395.313.300 1F1B=395.314.300 1F1C=395.313.301 1F1D=395.314.301 1F20=3B7.313 1F21=3B7.314
1F22=3B7.313.300 1F23=3B7.314.300 1F24=3B7.313.301 1F25=3B7.314.301 1F26=3B7.313.342
1F27=3B7.314.342 1F28=397.313 1F29=397.314 1F2A=397.313.300 1F2B=397.314.300 1F2C=397.313.301
1F2D=397.314.301 1F2E=397.313.342 1F2F=397.314.342 1F30=3B9.313 1F31=3B9.314 1F32=3B9.313.300
1F33=3B9.314.300 1F34=3B9.313.301 1F35=3B9.314.301 1F36=3B9.313.342 1F37=3B9.314.342 1F38=399.313
1F39=399.314 1F3A=399.313.300 1F3B=399.314.300 1F3C=399.313.301 1F3D=399.314.301 1F3E=399.313.342
1F3F=399.314.342 1F40=3BF.313 1F41=3BF.314 1F42=3BF.313.300 1F43=3BF.314.300 1F44=3BF.313.301
1F45=3BF.314.301 1F48=39F.313 1F49=39F.314 1F4A=39F.313.300 1F4B=39F.314.300 1F4C=39F.313.301
1F4D=39F.314.301 1F50=3C5.313 1F51=3C5.314 1F52=3C5.313.300 1F53=3C5.314.300 1F54=3C5.313.301
1F55=3C5.314.301 1F56=3C5.313.342 1F57=3C5.314.342 1F59=3A5.314 1F5B=3A5.314.300 1F5D=3A5.314.301
1F5F=3A5.314.342 1F60=3C9.313 1F61=3C9.314 1F62=3C9.313.300 1F63=3C9.314.300 1F64=3C9.313.301
1F65=3C9.314.301 1F66=3C9.313.342 1F67=3C9.314.342 1F68=3A9.313 1F69=3A9.314 1F6A=3A9.313.300
1F6B=3A9.314.300 1F6C=3A9.313.301 1F6D=3A9.314.301 1F6E=3A9.313.342 1F6F=3A9.314.342 1F70=3B1.300
1F71=3B1.301 1F72=3B5.300 1F73=3B5.301 1F74=3B7.300 1F75=3B7.301 1F76=3B9.300 1F77=3B9.301
1F78=3BF.300 1F79=3BF.301 1F7A=3C5.300 1F7B=3C5.301 1F7C=3C9.300 1F7D=3C9.301 1F80=3B1.313.345
1F81=3B1.314.345 1F82=3B1.313.300.345 1F83=3B1.314.300.345 1F84=3B1.313.301.345
1F85=3B1.314.301.345 1F86=3B1.313.342.345 1F87=3B1.314.342.345 1F88=391.313.345 1F89=391.314.345
1F8A=391.313.300.345 1F8B=391.314.300.345 1F8C=391.313.301.345 1F8D=391.314.301.345
1F8E=391.313.342.345 1F8F=391.314.342.345 1F90=3B7.313.345 1F91=3B7.314.345 1F92=3B7.313.300.345
1F93=3B7.314.300.345 1F94=3B7.313.301.345 1F95=3B7.314.301.345 1F96=3B7.313.342.345
1F97=3B7.314.342.345 1F98=397.313.345 1F99=397.314.345 1F9A=397.313.300.345 1F9B=397.314.300.345
1F9C=397.313.301.345 1F9D=397.314.301.345 1F9E=397.313.342.345 1F9F=397.314.342.345
1FA0=3C9.313.345 1FA1=3C9.314.345 1FA2=3C9.313.300.345 1FA3=3C9.314.300.345 1FA4=3C9.313.301.345
1FA5=3C9.314.301.345 1FA6=3C9.313.342.345 1FA7=3C9.314.342.345 1FA8=3A9.313.345 1FA9=3A9.314.345
1FAA=3A9.313.300.345 1FAB=3A9.314.300.345 1FAC=3A9.313.301.345 1FAD=3A9.314.301.345
1FAE=3A9.313.342.345 1FAF=3A9.314.342.345 1FB0=3B1.306 1FB1=3B1.304 1FB2=3B1.300.345 1FB3=3B1.345
1FB4=3B1.301.345 1FB6=3B1.342 1FB7=3B1.342.345 1FB8=391.306 1FB9=391.304 1FBA=391.300 1FBB=391.301
1FBC=391.345 1FC2=3B7.300.345 1FC3=3B7.345 1FC4=3B7.301.345 1FC6=3B7.342 1FC7=3B7.342.345
1FC8=395.300 1FC9=395.301 1FCA=397.300 1FCB=397.301 1FCC=397.345 1FD0=3B9.306 1FD1=3B9.304
1FD2=3B9.308.300 1FD3=3B9.308.301 1FD6=3B9.342 1FD7=3B9.308.342 1FD8=399.306 1FD9=399.304
1FDA=399.300 1FDB=399.301 1FE0=3C5.306 1FE1=3C5.304 1FE2=3C5.308.300 1FE3=3C5.308.301 1FE4=3C1.313
1FE5=3C1.314 1FE6=3C5.342 1FE7=3C5.308.342 1FE8=3A5.306 1FE9=3A5.304 1FEA=3A5.300 1FEB=3A5.301
1FEC=3A1.314 1FF2=3C9.300.345 1FF3=3C9.345 1FF4=3C9.301.345 1FF6=3C9.342 1FF7=3C9.342.345
1FF8=39F.300 1FF9=39F.301 1FFA=3A9.300 1FFB=3A9.301 1FFC=3A9.345 212B=41.30A 2161=49.49
2162=49.49.49 2163=49.56 2165=56.49 2166=56.49.49 2167=56.49.49.49 2168=49.58 216A=58.49
216B=58.49.49 2171=69.69 2172=69.69.69 2173=69.76 2175=76.69 2176=76.69.69 2177=76.69.69.69
2178=69.78 217A=78.69 217B=78.69.69 304C=304B.3099 304E=304D.3099 3050=304F.3099 3052=3051.3099
3054=3053.3099 3056=3055.3099 3058=3057.3099 305A=3059.3099 305C=305B.3099 305E=305D.3099
3060=305F.3099 3062=3061.3099 3065=3064.3099 3067=3066.3099 3069=3068.3099 3070=306F.3099
3071=306F.309A 3073=3072.3099 3074=3072.309A 3076=3075.3099 3077=3075.309A 3079=3078.3099
307A=3078.309A 307C=307B.3099 307D=307B.309A 3094=3046.3099 309E=309D.3099 309F=3088.308A
30AC=30AB.3099 30AE=30AD.3099 30B0=30AF.3099 30B2=30B1.3099 30B4=30B3.3099 30B6=30B5.3099
30B8=30B7.3099 30BA=30B9.3099 30BC=30BB.3099 30BE=30BD.3099 30C0=30BF.3099 30C2=30C1.3099
30C5=30C4.3099 30C7=30C6.3099 30C9=30C8.3099 30D0=30CF.3099 30D1=30CF.309A 30D3=30D2.3099
30D4=30D2.309A 30D6=30D5.3099 30D7=30D5.309A 30D9=30D8.3099 30DA=30D8.309A 30DC=30DB.3099
30DD=30DB.309A 30F4=30A6.3099 30F7=30EF.3099 30F8=30F0.3099 30F9=30F1.3099 30FA=30F2.3099
30FE=30FD.3099 30FF=30B3.30C8 FB00=66.66 FB01=66.69 FB02=66.6C FB03=66.66.69 FB04=66.66.6C
FB05=73.74 FB06=73.74 FB13=574.576 FB14=574.565 FB15=574.56B FB16=57E.576 FB17=574.56D
FB1D=5D9.5B4 FB1F=5F2.5B7 FB2A=5E9.5C1 FB2B=5E9.5C2 FB2C=5E9.5BC.5C1 FB2D=5E9.5BC.5C2 FB2E=5D0.5B7
FB2F=5D0.5B8 FB30=5D0.5BC FB31=5D1.5BC FB32=5D2.5BC FB33=5D3.5BC FB34=5D4.5BC FB35=5D5.5BC
FB36=5D6.5BC FB38=5D8.5BC FB39=5D9.5BC FB3A=5DA.5BC FB3B=5DB.5BC FB3C=5DC.5BC FB3E=5DE.5BC
FB40=5E0.5BC FB41=5E1.5BC FB43=5E3.5BC FB44=5E4.5BC FB46=5E6.5BC FB47=5E7.5BC FB48=5E8.5BC
FB49=5E9.5BC FB4A=5EA.5BC FB4B=5D5.5B9 FB4C=5D1.5BF FB4D=5DB.5BF FB4E=5E4.5BF FB4F=5D0.5DC
FBA4=6D5.654 FBA5=6D5.654 FBB0=6D2.654 FBB1=6D2.654 FBDD=6C7.674 FBEA=64A.654.627 FBEB=64A.654.627
FBEC=64A.654.6D5 FBED=64A.654.6D5 FBEE=64A.654.648 FBEF=64A.654.648 FBF0=64A.654.6C7
FBF1=64A.654.6C7 FBF2=64A.654.6C6 FBF3=64A.654.6C6 FBF4=64A.654.6C8 FBF5=64A.654.6C8
FBF6=64A.654.6D0 FBF7=64A.654.6D0 FBF8=64A.654.6D0 FBF9=64A.654.649 FBFA=64A.654.649
FBFB=64A.654.649 FC00=64A.654.62C FC01=64A.654.62D FC02=64A.654.645 FC03=64A.654.649
FC04=64A.654.64A FC05=628.62C FC06=628.62D FC07=628.62E FC08=628.645 FC09=628.649 FC0A=628.64A
FC0B=62A.62C FC0C=62A.62D FC0D=62A.62E FC0E=62A.645 FC0F=62A.649 FC10=62A.64A FC11=62B.62C
FC12=62B.645 FC13=62B.649 FC14=62B.64A FC15=62C.62D FC16=62C.645 FC17=62D.62C FC18=62D.645
FC19=62E.62C FC1A=62E.62D FC1B=62E.645 FC1C=633.62C FC1D=633.62D FC1E=633.62E FC1F=633.645
FC20=635.62D FC21=635.645 FC22=636.62C FC23=636.62D FC24=636.62E FC25=636.645 FC26=637.62D
FC27=637.645 FC28=638.645 FC29=639.62C FC2A=639.645 FC2B=63A.62C FC2C=63A.645 FC2D=641.62C
FC2E=641.62D FC2F=641.62E FC30=641.645 FC31=641.649 FC32=641.64A FC33=642.62D FC34=642.645
FC35=642.649 FC36=642.64A FC37=643.627 FC38=643.62C FC39=643.62D FC3A=643.62E FC3B=643.644
FC3C=643.645 FC3D=643.649 FC3E=643.64A FC3F=644.62C FC40=644.62D FC41=644.62E FC42=644.645
FC43=644.649 FC44=644.64A FC45=645.62C FC46=645.62D FC47=645.62E FC48=645.645 FC49=645.649
FC4A=645.64A FC4B=646.62C FC4C=646.62D FC4D=646.62E FC4E=646.645 FC4F=646.649 FC50=646.64A
FC51=647.62C FC52=647.645 FC53=647.649 FC54=647.64A FC55=64A.62C FC56=64A.62D FC57=64A.62E
FC58=64A.645 FC59=64A.649 FC5A=64A.64A FC5B=630.670 FC5C=631.670 FC5D=649.670 FC64=64A.654.631
FC65=64A.654.632 FC66=64A.654.645 FC67=64A.654.646 FC68=64A.654.649 FC69=64A.654.64A FC6A=628.631
FC6B=628.632 FC6C=628.645 FC6D=628.646 FC6E=628.649 FC6F=628.64A FC70=62A.631 FC71=62A.632
FC72=62A.645 FC73=62A.646 FC74=62A.649 FC75=62A.64A FC76=62B.631 FC77=62B.632 FC78=62B.645
FC79=62B.646 FC7A=62B.649 FC7B=62B.64A FC7C=641.649 FC7D=641.64A FC7E=642.649 FC7F=642.64A
FC80=643.627 FC81=643.644 FC82=643.645 FC83=643.649 FC84=643.64A FC85=644.645 FC86=644.649
FC87=644.64A FC88=645.627 FC89=645.645 FC8A=646.631 FC8B=646.632 FC8C=646.645 FC8D=646.646
FC8E=646.649 FC8F=646.64A FC90=649.670 FC91=64A.631 FC92=64A.632 FC93=64A.645 FC94=64A.646
FC95=64A.649 FC96=64A.64A FC97=64A.654.62C FC98=64A.654.62D FC99=64A.654.62E FC9A=64A.654.645
FC9B=64A.654.647 FC9C=628.62C FC9D=628.62D FC9E=628.62E FC9F=628.645 FCA0=628.647 FCA1=62A.62C
FCA2=62A.62D FCA3=62A.62E FCA4=62A.645 FCA5=62A.647 FCA6=62B.645 FCA7=62C.62D FCA8=62C.645
FCA9=62D.62C FCAA=62D.645 FCAB=62E.62C FCAC=62E.645 FCAD=633.62C FCAE=633.62D FCAF=633.62E
FCB0=633.645 FCB1=635.62D FCB2=635.62E FCB3=635.645 FCB4=636.62C FCB5=636.62D FCB6=636.62E
FCB7=636.645 FCB8=637.62D FCB9=638.645 FCBA=639.62C FCBB=639.645 FCBC=63A.62C FCBD=63A.645
FCBE=641.62C FCBF=641.62D FCC0=641.62E FCC1=641.645 FCC2=642.62D FCC3=642.645 FCC4=643.62C
FCC5=643.62D FCC6=643.62E FCC7=643.644 FCC8=643.645 FCC9=644.62C FCCA=644.62D FCCB=644.62E
FCCC=644.645 FCCD=644.647 FCCE=645.62C FCCF=645.62D FCD0=645.62E FCD1=645.645 FCD2=646.62C
FCD3=646.62D FCD4=646.62E FCD5=646.645 FCD6=646.647 FCD7=647.62C FCD8=647.645 FCD9=647.670
FCDA=64A.62C FCDB=64A.62D FCDC=64A.62E FCDD=64A.645 FCDE=64A.647 FCDF=64A.654.645 FCE0=64A.654.647
FCE1=628.645 FCE2=628.647 FCE3=62A.645 FCE4=62A.647 FCE5=62B.645 FCE6=62B.647 FCE7=633.645
FCE8=633.647 FCE9=634.645 FCEA=634.647 FCEB=643.644 FCEC=643.645 FCED=644.645 FCEE=646.645
FCEF=646.647 FCF0=64A.645 FCF1=64A.647 FCF2=640.64E.651 FCF3=640.64F.651 FCF4=640.650.651
FCF5=637.649 FCF6=637.64A FCF7=639.649 FCF8=639.64A FCF9=63A.649 FCFA=63A.64A FCFB=633.649
FCFC=633.64A FCFD=634.649 FCFE=634.64A FCFF=62D.649 FD00=62D.64A FD01=62C.649 FD02=62C.64A
FD03=62E.649 FD04=62E.64A FD05=635.649 FD06=635.64A FD07=636.649 FD08=636.64A FD09=634.62C
FD0A=634.62D FD0B=634.62E FD0C=634.645 FD0D=634.631 FD0E=633.631 FD0F=635.631 FD10=636.631
FD11=637.649 FD12=637.64A FD13=639.649 FD14=639.64A FD15=63A.649 FD16=63A.64A FD17=633.649
FD18=633.64A FD19=634.649 FD1A=634.64A FD1B=62D.649 FD1C=62D.64A FD1D=62C.649 FD1E=62C.64A
FD1F=62E.649 FD20=62E.64A FD21=635.649 FD22=635.64A FD23=636.649 FD24=636.64A FD25=634.62C
FD26=634.62D FD27=634.62E FD28=634.645 FD29=634.631 FD2A=633.631 FD2B=635.631 FD2C=636.631
FD2D=634.62C FD2E=634.62D FD2F=634.62E FD30=634.645 FD31=633.647 FD32=634.647 FD33=637.645
FD34=633.62C FD35=633.62D FD36=633.62E FD37=634.62C FD38=634.62D FD39=634.62E FD3A=637.645
FD3B=638.645 FD3C=627.64B FD3D=627.64B FD50=62A.62C.645 FD51=62A.62D.62C FD52=62A.62D.62C
FD53=62A.62D.645 FD54=62A.62E.645 FD55=62A.645.62C FD56=62A.645.62D FD57=62A.645.62E
FD58=62C.645.62D FD59=62C.645.62D FD5A=62D.645.64A FD5B=62D.645.649 FD5C=633.62D.62C
FD5D=633.62C.62D FD5E=633.62C.649 FD5F=633.645.62D FD60=633.645.62D FD61=633.645.62C
FD62=633.645.645 FD63=633.645.645 FD64=635.62D.62D FD65=635.62D.62D FD66=635.645.645
FD67=634.62D.645 FD68=634.62D.645 FD69=634.62C.64A FD6A=634.645.62E FD6B=634.645.62E
FD6C=634.645.645 FD6D=634.645.645 FD6E=636.62D.649 FD6F=636.62E.645 FD70=636.62E.645
FD71=637.645.62D FD72=637.645.62D FD73=637.645.645 FD74=637.645.64A FD75=639.62C.645
FD76=639.645.645 FD77=639.645.645 FD78=639.645.649 FD79=63A.645.645 FD7A=63A.645.64A
FD7B=63A.645.649 FD7C=641.62E.645 FD7D=641.62E.645 FD7E=642.645.62D FD7F=642.645.645
FD80=644.62D.645 FD81=644.62D.64A FD82=644.62D.649 FD83=644.62C.62C FD84=644.62C.62C
FD85=644.62E.645 FD86=644.62E.645 FD87=644.645.62D FD88=644.645.62D FD89=645.62D.62C
FD8A=645.62D.645 FD8B=645.62D.64A FD8C=645.62C.62D FD8D=645.62C.645 FD8E=645.62E.62C
FD8F=645.62E.645 FD92=645.62C.62E FD93=647.645.62C FD94=647.645.645 FD95=646.62D.645
FD96=646.62D.649 FD97=646.62C.645 FD98=646.62C.645 FD99=646.62C.649 FD9A=646.645.64A
FD9B=646.645.649 FD9C=64A.645.645 FD9D=64A.645.645 FD9E=628.62E.64A FD9F=62A.62C.64A
FDA0=62A.62C.649 FDA1=62A.62E.64A FDA2=62A.62E.649 FDA3=62A.645.64A FDA4=62A.645.649
FDA5=62C.645.64A FDA6=62C.62D.649 FDA7=62C.645.649 FDA8=633.62E.649 FDA9=635.62D.64A
FDAA=634.62D.64A FDAB=636.62D.64A FDAC=644.62C.64A FDAD=644.645.64A FDAE=64A.62D.64A
FDAF=64A.62C.64A FDB0=64A.645.64A FDB1=645.645.64A FDB2=642.645.64A FDB3=646.62D.64A
FDB4=642.645.62D FDB5=644.62D.645 FDB6=639.645.64A FDB7=643.645.64A FDB8=646.62C.62D
FDB9=645.62E.64A FDBA=644.62C.645 FDBB=643.645.645 FDBC=644.62C.645 FDBD=646.62C.62D
FDBE=62C.62D.64A FDBF=62D.62C.64A FDC0=645.62C.64A FDC1=641.645.64A FDC2=628.62D.64A
FDC3=643.645.645 FDC4=639.62C.645 FDC5=635.645.645 FDC6=633.62E.64A FDC7=646.62C.64A
FDF0=635.644.6D2 FDF1=642.644.6D2 FDF2=627.644.644.647 FDF3=627.643.628.631 FDF4=645.62D.645.62F
FDF5=635.644.639.645 FDF6=631.633.648.644 FDF7=639.644.64A.647 FDF8=648.633.644.645
FDF9=635.644.649 FE71=640.64B FE77=640.64E FE79=640.64F FE7B=640.650 FE7D=640.651 FE7F=640.652
FE81=627.653 FE82=627.653 FE83=627.654 FE84=627.654 FE85=648.654 FE86=648.654 FE87=627.655
FE88=627.655 FE89=64A.654 FE8A=64A.654 FE8B=64A.654 FE8C=64A.654 FEF5=644.627.653 FEF6=644.627.653
FEF7=644.627.654 FEF8=644.627.654 FEF9=644.627.655 FEFA=644.627.655 FEFB=644.627 FEFC=644.627
1109A=11099.110BA 1109C=1109B.110BA 110AB=110A5.110BA 1112E=11131.11127 1112F=11132.11127
1134B=11347.1133E 1134C=11347.11357 114BB=114B9.114BA 114BC=114B9.114B0 114BE=114B9.114BD
115BA=115B8.115AF 115BB=115B9.115AF 11938=11935.11930"

/-- What characters are made of. -/
def decompositions : CaseMap := CaseMap.ofText decompositionMoves decompositionExpansions

end Curly.Text.Unicode
