import FieldCalc.Pattern.Property.Packed

/-!
# General categories

Every character has one category.  Those of Unicode 16.
-/

namespace FieldCalc

namespace Pattern

/-- The categories, without that of the surrogates. -/
def categories : List Named :=
  [⟨["uppercaseletter", "lu"],
    ["2NZ3XWBG1HABABABABABABABABABABABABABABABABABABABABABABABABABABABACABABABABABABABACABABAB",
     "ABABABABABABABABABABABABABABABABABABABABBBABADBBABBBCCDBBBCDBBBBABABBBACABBBCBABBDAHACAC",
     "ACABABABABABABABACABABABABABABABABACACABCBABABABABABABABABABABABABABABABABABABABABABABAB",
     "ABABABABABAHBBBCABDBABABABAbDABADAIAGABCBABBBQBI1JACCDABABABABABABABABABABABAFACABBC1Y1W",
     "ABABABABABABABABABABABABABABABABAJABABABABABABABABABABABABABABABABABABABABABABABABABABAB",
     "BBABABABABABACABABABABABABABABABABABABABABABABABABABABABABABABABABABABABABABABABABABABAB",
     "ABABABABABABABABABABAC1L33D1LBAFArU3H2cLAG1QCCcIABABABABABABABABABABABABABABABABABABABAB",
     "ABABABABABABABABABABABABABABABABABABABABABABABABABABABABABABABABABABABABABABABABABABABAB",
     "ABABABABABABABABABABAJABABABABABABABABABABABABABABABABABABABABABABABABABABABABABABABABAB",
     "ABABABABABABABABABABABABABABABAJHIFKHIHIFLABABABAIH2UDMDMDMELDaCAEADCCCCADEGABABABDCDKBF",
     "A2JA2vG1V1WABCCABABABDBACAICBABABABABABABABABABABABABABABABABABABABABABABABABABABABABABA",
     "BABABABABABABABABABABABABABABABABABABAIABAEAx6JABABABABABABABABABABABABABABABABABABABABA",
     "BABATABABABABABABABABABABABABABA5FABABABABABABADABABABABABABABABABABABABABABABABABABABAB",
     "ABABABABABABABABABABAKABABBBABABABAEABACABADABABABABABABABABABABEBEBABABABABABABABDBABBD",
     "AFABABABAYAnuHZ1aZ1N5G1J6AKBOBGBB1wC1Y6BV32O1FndW1FrsQZ1AZ1AZ1AABBCACBCDBH1AZ1ABBDCHBG1B",
     "BBDBEBADG1BZ1AZ1AZ1AZ1AZ1AZ1EY1HY1HY1HY1HY1HA4pL1H"]⟩,
   ⟨["lowercaseletter", "ll"],
    ["3TZ2GA1PXBHBABABABABABABABABABABABABABABABABABABABABABABABABABABABBBABABABABABABABBBABAB",
     "ABABABABABABABABABABABABABABABABABABABABACABABCCABACADBEACADCCACABABACABBBACADABACBCCGAC",
     "ACABABABABABABABABBBABABABABABABABABBCABADABABABABABABABABABABABABABABABABABABABABABABAB",
     "ABABABABABABGCACBBAEABABABAB2QB1A7LABADADCSA1B1IBBDCBABABABABABABABABABABABEBACACB1Z1VBA",
     "BABABABABABABABABABABABABABABABAJABABABABABABABABABABABABABABABABABABABABABABABABABABACA",
     "BABABABABABBBABABABABABABABABABABABABABABABABABABABABABABABABABABABABABABABABABABABABABA",
     "BABABABABABABABABABA1W1O33B1QCCtGF2bUIBA4N1R2LMB1H3YABABABABABABABABABABABABABABABABABAB",
     "ABABABABABABABABABABABABABABABABABABABABABABABABABABABABABABABABABABABABABABABABABABABAB",
     "ABABABABABABABABABABABABIBABABABABABABABABABABABABABABABABABABABABABABABABABABABABABABAB",
     "ABABABABABABABABABABABABABABABABABIIFKHIHIFKHIHINCHIHIHIEBBGADCBBIDCBIHKCBBaOADBDA1BAEAE",
     "ACBIDEA2BA2xB1VBADBBABABAEABBBFFABABABABABABABABABABABABABABABABABABABABABABABABABABABAB",
     "ABABABABABABABABABABABABABABABABABABABABABBHABAEAM1LBAFAx4DABABABABABABABABABABABABABABA",
     "BABABABABABABABATABABABABABABABABABABABABABA5FABABABABABABCBABABABABABABABABABABABABABAB",
     "ABABABABABABABABABABABABABABABABABHBABACABABABABAEABACABCBABABABABABABABABABAFAFABABABAB",
     "ABABABAEABACADABABABABABA1AADAvP1QFIH3BloIGME14ZZ1bH1N5G1J5ZKBOBGBB1xB1Y4VV32O1FndW1FrsK",
     "Z1AGBR1AZ1ADBABGBK1AZ1AZ1AZ1AZ1AZ1AZ1AZ1AZ1A1B1CYBF1AYBF1AYBF1AYBF1AYBFBA1yYJBTGF2qD1H"]⟩,
   ⟨["titlecaseletter", "lt"],
    ["hLACACA1MA83HHIHIHMAPA1VA"]⟩,
   ⟨["modifierletter", "lm"],
    ["qMRELOEHABA5DAFAiKA8WA6IBaJBEA1FAJADA6EA6LA1bOA4XAlTA1vMA4DAnNAhWF6S2KNA1I1KqNANAQM38XB9",
     "HA7JAiBA1REFA3TB3PCudUA1cCFaKA4KA1CB4RI3CAXA4BCDBiBAWA5HA4EAVB3ZDJAmzIA1TB25OFB1PBI1iXA1",
     "GApnSDjOC1OBlEM2MBBAhiQDBGBBd6N2J7TG10FA17BA"]⟩,
   ⟨["otherletter", "lo"],
    ["6OAPA9WAED8AAvV1AED1T1FBJ1JBB3UBAYBKCCAQAB1D1D3KLAY1GVV1QYHKFXBFR1O2H2BDASAHJQOEHCBCVBGB",
     "ADDDAQANBBCOBKAIFEBCVBGBBBBBB1FDBATCQIBCBVBGBBBEDASAPBXALHCBCVBGBBBEDA1EBBCPARABFDCBDDBB",
     "ABBDBDCDLWA2AHBCBWBPDA1ACCACB1EAEHBCBWBJBEDA1FBBBPBRIBCB1OCAQAFCICYFFRDXBIBACG2G1VBBMF2H",
     "BBABEBXBABJBBJACEXD1GA2LHB1J1BE4L1QUAQFEDDADBHCEMMA4JcQBDCGBABDC1OBDC1GBDCGBABDCOB2EBDC2",
     "O1LP4JnVCQBZF2WGHHRNSOROMBCP1Z1OA2P1IB2AHEC1HBAF2RK1E1X1DCEL1REZ2CWJ2A6U1URH2C1DNBK1R1A1",
     "J1PCK1D4JDBFBBDA15QD39V2DYWJGBGBGBGBGBGBGBGlFA2BAE3HIAB3LEAF1QB3PR1F1WPjS71N2MmgEB17Y2P1",
     "NIaHEPKB2OA1X2R6NA3ZADGBCBDBW1D1ZO1X2KFDABBL1BKWZ1CH1U1TECIKEB1OXCBHUPBFDAD1XBADBCECABAY",
     "BDKHAOFCFCFJGBG5P1I1DbxRMWE1W91CeBC4B2PABJBMBEBABBBBB4D1HdYS2LC2B1OL4MEB5E4BJB1SC1EDFCFC",
     "FCC1JLBZBSBBBOCN1I4SeZ1CD1W1V1FNTBHG1LK1DC1JEH4Y2Z3U1NI1Z3O1ZMbYJVKH5WFCAB1RBBDACWKWJ1E2",
     "NSBBKVKZ2S2DGB2MAPDBCB1C1Q1CD1C1JHB1B1B2BKVKSNR4G2U7B1J1MDBAbS1PGBQC2H1CKAIV1QR1UU1BWM2A",
     "2FBCAN1S1GY1A1J1DACAI1IDAM1VODVABA1JRBYTB2LGBABDBOBJH1U1MHCBCVBGBBBEDASAME1EJBACAB1LBAZA",
     "BA1S2ASDUC1E1VUBBA7C1U1PD1K1VUA2H1QNA2T1A1LG7D1R8DHCACHBBBXPABA3QHC1MQABA1CAK1NHAVAL1TTA",
     "S2U7R1G1FIB1KRA1X1D4IGBBB1LVAZFBBB1FOAcPSPABMB1H4UA3BzL8W7N2tK3SP15FRFZ49QFmK7bD1D1vUlWH",
     "1ER3AR1DS1V1ZUFSgT1NfP2WFA6T6jZI1bP1PJ9kHbEPA1DCCAODIfF2gU4CFMDIHJ9fCAjH1S1HAcJ1DS1RiQ1A",
     "8V1DCAjBGBDBBBOB7O1fNDB1ABBBACABJBDBABAGAEABABABCBBBACABABABABABBBACDBGBDBDBABJBQFCBEBQ4",
     "qA19nB1G4fTG8NC65PO7zKPnX2mWkV1lY59YF4hF"]⟩,
   ⟨["nonspacingmark", "mn"],
    ["tO4HaPEaF1SBABBBBBA2UK1WUQA3XGCFCBBD1JA1E1A3NK2GIJAYDBIBCBE1RC2HI1QXB1F2DABAEHEADGKB1DA2",
     "GAEDIAUB1AACB2FAEBEBCCDA1EBDALB2FAEEBBEAUBWFBA2GACABDIAHBLB1EA2JAMA1YADA2DABCFCBDHBLB1DA",
     "2GACAGAFBUB1CB2FBEDIAUB1DA2UAHCBA3MACGMH3UACILG2VB1BABABA2DNBEBBFKB1JJA3YDBFBBCBZBECQDNA",
     "CBGAPArBC10KC1DB1EB1EB2MBBGIACKJA1TCBA4NB1IA4OCEBJAGC8LBCA2GABGBABACHGJCA1WNBP1XD1WABEBA",
     "FA1OIMB1GDCBBC2EABBDABC2GHCB5WCBMBGEAGADB7Q2LrSMEADL3aCC5LA3S1FlID4DBw8EAEJ1GB3CBaMADAEA",
     "ZBFA5VB1ARNA1MHZK1UC1WACDCB1NA2PFCBCBMAIA1VA1ZABCCBFBBA1QBIA9EACAEAlnSAsJPQP11LA8SA5TE1s",
     "GCBBFD1OCEA6JBmBD2NEcFB3BD2SK1XD4TA2CO1PACBKC1XDCBHA2JC1KEBH2KAMB2AIKDCA3RCCABBGACA6BADH",
     "VB2FBDA1LGDE2SFNABABAOB3HHCCBAXA3GFBAEBBB9EDGBBB1BB3HHCABB4CABACFBA3XABACDBE9ZIBB9WBBAEA",
     "5ODCBEA1GJ1OFCDIAJFCC1UMBBfQGBFBA3EVCGBBBB4SFDABBBGBA2UBDABAdJBLB2AEFABAXA5pTAGOc8YLDC2o",
     "AE2HG14IA2LD3DAkzKB50Z1TCWkYCRHCG1ED5SC24D2CE1XIAOAWEBO1gIGBQCGBBBE3WA6EGeLA2JDjOD9UBsIG",
     "4FGnioV9F"]⟩,
   ⟨["spacingmark", "mc"],
    ["2gTA2DACCIDBB1YB2GCGBCBKA1RA2GC2OA2GCIABB2BB2GABAGBCBKA3YBBBDCBCKA1PC2JD2JB2GABECBBBJB1C",
     "AOB2GCFCBCKA1QB2XCGHSBcSB2LA6PBEAGACBZBKCCGVBCFCAKC1rSA1EA4ZAHHBBdIDCCEBBF8QB2GABAJABBIF",
     "5PA1WAFABEBB2JA1EAEBCA2IACCBADB1WHIB6PAVA59EBwtBBCA3KB1YP5MB1VA1WBEBCC4GBCBYA1TABA4FACBF",
     "A9DBBBBBBArdJABA4XA1TCEB4LAYB2HA1WCJBNA3PCDBBA6OC1FB2GBBDCBCCJAKB3GCHACABDBBBA3XCIBDA4CC",
     "GABDCA9DCGDCA4JCIBBA4FABBGA3ZABBEAaBCJA9NFBBEACABA5MCIDEA3GA1DB2KAfRAOA4CAHACA8FEEBBAdMB",
     "MA1WBIBBAi0YC3vG2C4ABqnNBGF"]⟩,
   ⟨["enclosingmark", "me"],
    ["18QB62QA1oGDBC10iXC"]⟩,
   ⟨["decimalnumber", "digit", "nd"],
    ["1WJ1oOJ5EJ7QJfWJ4OJ4OJ4OJ4OJ4OJ4OJ4OJ4OJ4OJ3SJ4OJ2SJaSJ2SJ1zQJ1MJbOJ4YJ6KJGJ7AJ3IJ5EJGJ1",
     "1oOJqCJ1MJ7QJWJ3IJfQJmqCJ1iKJ2bYJGJuQJ4YJ2IJ5OJaSJdEJ4OJeKJ3YJGT2YJgGJ3YJpMJ3IJ9MJ2SJgGJ",
     "i0GJ2iCJ3IJ5EJkOJq3YJ2yQ1X2jCJgGJjIJ9NJwVJ53AJ"]⟩,
   ⟨["letternumber", "nl"],
    ["69UC2uT1ICD3ySAZIOCwgLJopG2AhSAIA5EE8sS4G"]⟩,
   ⟨["othernumber", "no"],
    ["6WBFACC2iRFeMF4QC5DG8JGRIgRJ15LT17VJiMA1sVADFGJ7QP1PArY2H3AVoG1D1hHA19CD5IJ1EHBO1GJ1NOw4",
     "IFoaN1S2NDRBdD1A1KD1fGHZG1NI2XEWF6EBCPC1T2MI2AB1EC2XE4AHYH1PGcSFdO1E6CJ1QD4IG5ETePT1fXBg",
     "OIxNSwTUknQGuSWreFTMT4EY5tUIzT2GBCBD2Y1SBO11AM"]⟩,
   ⟨["connectorpunctuation", "pc"],
    ["3RA8pVBTA1ooOBYC9FA"]⟩,
   ⟨["dashpunctuation", "pd"],
    ["1TA1gUA1ZA3wJA13PA27DF3tXACA1FBEA1CAhEATA4HA1k8AB1LAKA6NA3xOAcGA"]⟩,
   ⟨["openpunctuation", "ps"],
    ["1OA1YA1FA41EABA20OA2lMADA1MA2DAPAoKABA1EA15UABABABABABABA3CA1GABABABABAfOABABABABABABABA",
     "BABABA2MABA1HA14VABABABAZASABABABAgMABABABABADABABABACA1k3TA8HA1DABABABABABABABADARABABA",
     "6OA1YA1FADACA"]⟩,
   ⟨["closepunctuation", "pe"],
    ["1PA1ZA1FA41DABA20OA2nDA2DAPAoKABA1EA15UABABABABABABA3CA1GABABABABAfOABABABABABABABABABAB",
     "A2MABA1HA14VABABABA1SABABABAgMABABABABADABABABACB1k3QA8JA1DABABABABABABABADARABABA6OA1ZA",
     "1FACACA"]⟩,
   ⟨["initialpunctuation", "pi"],
    ["6PA8lKACBCAZA3rSABAEACAPADA"]⟩,
   ⟨["finalpunctuation", "pf"],
    ["7FA8kVADA1CA3rSABAEACAPADA"]⟩,
   ⟨["otherpunctuation", "po"],
    ["1HCBCCABABBKBDB1BA2QAFAOBHArAAIAhYF1PA2CACACA1SBUBBBNABC2WD3YA1RN8ZC2CO1FAaBBKA5KA4QA4RA",
     "fAAMAeDA3MAKB6MOBA4IA2WEEB4HF6PAnOItTA4UC2TB6BCBC1LFBDcBB8IB4YGBF6EBKG1CC4UD2HE2KB2MHLAw",
     "CBIHIICDCCDKBABJ3gCDBB4IA5NBECCACIBBBACBKEBJCDBABMCCgMC2FA7HAvqGBaJC3VAKA4LFeQD3IB1OCBA1",
     "XB1VA3TMQB4UD4WBQB9PAmgUGCAWAUBCDDCBDHCGABB5TCBCCABABBKBDB1BA1KACBfUCpSA1WAfYAsPA7RA1FAa",
     "MI1MA4IG2OG3LD10QE1SD7HG4FBBD4WD1WB3BDEANABC3KF4DAbMBBB4KEKBBA4AA9QW4BC1CM2YA5AC9SAaEC5Z",
     "A3OH3FCBE3PJ8HA3RE1QBoVB2WM6TA17SE35CBfzVB5DA2NEIAlGCbJDcPAkzOA86LE34TAxEB"]⟩,
   ⟨["mathsymbol", "sm"],
    ["1RAQC2JABA1TAEA1LA1FAtMAkHC76HANA1NCNC5JA1NEGA2QEFBEACACAHA1FBCABA1FaH1GB3MA1EY1OFiBAJA2",
     "CH4HAcYEC1EKP9W5AW2KE1FC9X1WUCF1kuQAvSABC6IAQC2JABA5BAGD3qFB1j0ZAZA1FAZA1FAZA1FAZA1FAZA6",
     "cEB"]⟩,
   ⟨["currencysymbol", "sc"],
    ["1KA4VD1cJA4TAjEBjEBHA9LAaDAmJA2mPA2eI1G111VAngLA4EA5YA8LBDB8qSD1hdEA2nKA"]⟩,
   ⟨["modifiersymbol", "sk"],
    ["3QABA2TAGAEADAkBDMNFGBABQ4NAOB1dIA6cMABCLCNCNCNB4jOBwdRWJB3ZB11OAOBlyKQyHABA6GA1urJE"]⟩,
   ⟨["othersymbol", "so"],
    ["6KACAEABA11PAaGB4XB7YAKATB9NAjVAeJA5AFBA5CA7ZA1PAfBCPABCCFUABABA5DHBFBBFD7PBsYJrVArUA6B1",
     "HdPJJI1iHBBDBBKABBGFBABABAEALBOABBBA2GBJECDBBBBBGB1ECBBAB1EaIHETCGC3CB1DZ1NG2TWK3D2ZW7AB",
     "IB2BI4GB9N1S1R2M9VjS1VVBG1MC1FB4A8VFdTB1UZB3KM8F1APEANBMAVBGBcYBEJ1G1LJAQ1EL1DIAP1FK1MPc",
     "H71O2LnoI2CxHDKBBAmBCmnAP4XA1TCiQADAEBNBcBI2FQCCBMDA1V1S1rUBmTA3eSA2cNHEQklIDFAm8WA47N9F",
     "QgT6A4L2I9LK1MC2HFCWBH1DE2IV2NDA7E3I19XjR2DD1YHBNBB1uUA33WA4ZArT1RE3VMOCOBOB1KX6E2E1CN1R",
     "EIHBOF5Y9QFrZEQDMD4OE3QGLEAPLE2DIJG1NI1DCLEB2KdBMNCMDJF2DHOCKGIH5QB3N"]⟩,
   ⟨["spaceseparator", "zs"],
    ["1GA4XA5zJA2lNK1KA1VA49WA"]⟩,
   ⟨["lineseparator", "zl"],
    ["8sQA"]⟩,
   ⟨["paragraphseparator", "zp"],
    ["8sRA"]⟩,
   ⟨["control", "cntrl", "cc"],
    ["A1F3R1G"]⟩,
   ⟨["format", "cf"],
    ["6RA1gKFWA7KA1XAeUB3CA45JA26QE1AE1XEBJ1ovJA9PC4kZAPA9oKP11aUD5oXHnoxMA1E3R"]⟩,
   ⟨["privateuse", "co"],
    ["1p9O6uDra5O1y0NC1y0N"]⟩,
   ⟨["unassigned", "cn"],
    ["yEBGDHABAUAfHA1MB1YBDA2DH1BDGKaKA2IB3XN2HB1XBPA1CBBALE1FACE9DAIBCBWAHABCEBJBCBEHBDCAFBZB",
     "DAGDCBWAHACACACBBAFDCBDCBGEABGRJDAJADAWAHACAFBKADADBBOEBMGHADAIBCBWAHACAFBJBCBDGDDCAFBSJ",
     "CAGCDAECCABACCCCDCMDFCDAEBBFBNVENADAXAQBJADAEGCADBBBEBKGWADAXAKAFBJADAEGCFCAEBKADLNADA1Z",
     "ADAGDQB1AADASCYAJABBHCBDGABAIFKBDL2GD1D1KCABAFAYABAXBFABAHAKBE1F2UA1KD1NA1KAPAN1K7QABEBB",
     "eNAEBHABAEB1PAEB1HAEBHABAEBPA2FAEB2PB1GC1AF3IBGBpTC3LGWIYIULNADACL3QBKFKF1AF3LG1RE2SJ1FA",
     "MDMDBC1QBFK1SD1AFLC2KB2NA1DBLFKFOB1F1W2ZA6KH2ICPC2KE1RBLH1REkOBGB1MBGBIABABABA1FB2BAPAOB",
     "GATBDAJA3XAMB1BANC1HO1HO5KDpQVLU1xSB1GAdLE1TABEBB2EGCNYIHAHAHAHAHAHAHAHA4W1H1AA3LL8GZ3CA",
     "3IB3ZE1RA3QA3II1WAvaRC2DIdKT7CH7YBCABAIU2HCKF2EH2SHMF4MK1EC3AALD1HA2DIOBKB3ZX1CJGBGBGIHA",
     "HA2ID4WBKFbxSLXD1XD9fAB4C1LHLFE1AAFABACACA4VPhDB2CGB1F1QF1ZATAEDFA5FBBA7ICGBGBGBDCHAHJFB",
     "MA1AATACAPBO1H4TEDD1TC3KANCB1U1U4Z1DC1XO1CD1KI1EE1RE1EA1LDO1P6CBKF1KD1KD1OH2AKMAPAHACALA",
     "PAHACC2ALbZIWJIXGA1QAJ2QGBBA1SACCBBXA2UHJ1VTACE1HC1BEB2L2EDUB1YACEIADA1DBDDKGJG2M1F1NDMI",
     "2CC1DB1BE1AGELH3B2V2C1ZM1ZG1UHKF1MC1DHC7Z1FA1QADBCPD2C1SH1QV1A1L1CTXI3AD1KI2QJBBZGKF2BAS",
     "H1NI3SAUKSA1V2JHABAEAPALF2HEKFEAIBCBWAHACAFAKBCBDBBFBEHBHCFKKABBBA1MAKABBBAEAKACHC1C3OAF",
     "1D2UHK6J2CB1M1H2RKKFNS2GFKFU1B1BBPDX7C2I3V3FLIBBBIACA1EACBMIK2RIB1UBL1A2UH3FM2VGK6Z1INKF",
     "JA1TAOJ1DC1GBWAO2UHACA1SCBACAJHKFGACA1LACAGGKbXZGRA1PC1D3GBO1YMzN3X4HAFK7O2tJ3VM16SJ49RE",
     "mL7bC2G1uRlXG1FAKD3DAKF1EBGJ2SJKAHAVETgP2G7P3N3W2XD2FGR2LFKCN6kAH1bQ1OK9jQEAHACAbFOB1CDB",
     "BNEHfG2gT4DENCJGKBI47F9QFgU2X1UBXI4M2H9MJ1NB7MU2S4RULUL3JIZ5E3HA2TACBBBCBEAMABAHA2NAEBIA",
     "HA1CAEAFABCHAdCBbGBrAOFAP16L1FFG8EHARBHACAFE2K1GB4H1TCOBKDCcH1FQ2GEBhV1Q8F1RDBiLHAEACAPA",
     "7PBQ1O2YDKDCuE2Q2X2J7LEA1BACABBBAKAEABABFBDBABABADACABBBABABABABACABBEAHAEAEABAKAREDAFAR",
     "1ZCaJ1SD3WLPBPAPA1LJ6S2D1DM1SDJGCNG5X11WDRCNC4PD3RFMDBOMD2EHKF1OH1EBMDC2JdCLOBNCKE2EGPBL",
     "FJG5RA3Y13P19nC1F4fUF8OB65QN7zLOnY2mVkW1lX59ZE4hGl4fKB1D3S4X9G1xhN1y0OB1y0OB"]⟩]

/-- Groups of categories, by the categories that they are made of. -/
def categoryGroups : List (List String × List String) :=
  [(["casedletter", "lc"], ["lu", "ll", "lt"]),
   (["letter", "l"], ["lu", "ll", "lt", "lm", "lo"]),
   (["combiningmark", "mark", "m"], ["mn", "mc", "me"]),
   (["number", "n"], ["nd", "nl", "no"]),
   (["punctuation", "punct", "p"], ["pc", "pd", "ps", "pe", "pi", "pf", "po"]),
   (["symbol", "s"], ["sm", "sc", "sk", "so"]),
   (["separator", "z"], ["zs", "zl", "zp"]),
   (["other", "c"], ["cc", "cf", "co", "cn", "cs"])]

end Pattern

end FieldCalc
