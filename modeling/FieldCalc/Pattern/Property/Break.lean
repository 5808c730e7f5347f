import FieldCalc.Pattern.Property.Packed

/-!
# Breaks

Kinds of characters that decide where a text can be broken.  Those of Unicode 16.
-/

namespace FieldCalc

namespace Pattern

/-- Kinds for breaks between grapheme clusters. -/
def clusterBreaks : List Named :=
  [⟨["cr"],
    ["NA"]⟩,
   ⟨["control", "cn"],
    ["AJBBBR3R1GNA1hMA4wRA26QACBYG1XP1ovJA9GLeaAP11aUD5oXHnoxL1F3S4X9G3uL"]⟩,
   ⟨["extend", "ex"],
    ["tO4HaPGaD1SBABBBBBA2UK1WUQA3XGCFCBBD1JA1E1A3NK2GIJAYDBIBCBE1RC2HI1QXB1F2DABAEHEADGKB1DA2",
     "GABACDIAJAKB1AACB2FAEBEBCCDA1EBDALB2FAEEBBEAUBWFBA2GABBBDIAHCKB1EA2HABAMAJA1OADA2DABCFCB",
     "DHBLB1DA2GACBBADCBDHBLB1CB2FBBACDIAJAKB1DA2UAEACCBAIA3DACGMH3UACILG2VB1BABABA2DNBEBBFKB1",
     "JJA3YDBFBBCBZBECQDNACBGAPArBC10KD1CC1DB1EB2MBBGIACKJA1TCBA4NB1IA4OCEBJAGC8LBCA2GABGBABAC",
     "HGJCA1W1E1XD1WJEC1MIMB1GDCF2EABBDABE2EHCB5WCBMBGEAGADB7Q2LkEA7N1G3aCC5LA3S1FlIF4BBw8EDBJ",
     "1GB3CBaMADAEAZBFA5VB1ARNA1MHZKBA1SC1WACDCBCA1KA2PFCBCBMAIA1VA1ZABCCBFBBA1QBIA9EACAEAlnSA",
     "sJPQPeCBnHA8SA5TE1sGCBBFD1OCEA6JBmBD2NEcFB3BD2SK1XD4TA2CO1PACBKC1XDCBHA2JC1KEBH2KAMB2AIB",
     "AIDCA3RCCDGACA6BADHVB2FBBABAMAJAOGDE2PACFBACABCECBAOB3HHCCBAXA3DACFBACABBBB9BACDGBBB1BB3",
     "HHCABB4CABACH3XABACDBE9ZIBB9LAKDEA5ODCBEA1GJ1OFCDIAJFCC1UMBBfQGBFBA3EVCGBBBB4SFDABBBGBA2",
     "UBDABAdJBLB2AEFCXA5pTAGOc8YLDC2oAE2HG14IA2LD3DALBkyXB50Z1TCWkWEDFIHCG1ED5SC24D2CE1XIAOAW",
     "EBO1gIGBQCGBBBE3WA6EGeLA2JDjOD9UBsIG4FG2xGEnfiU3R4Y9F"]⟩,
   ⟨["l"],
    ["4nK3R15kQ1C"]⟩,
   ⟨["lf"],
    ["KA"]⟩,
   ⟨["lv"],
    ["1b1OA1BA1BA1BA1BA1BA1BA1BA1BA1BA1BA1BA1BA1BA1BA1BA1BA1BA1BA1BA1BA1BA1BA1BA1BA1BA1BA1BA1B",
     "A1BA1BA1BA1BA1BA1BA1BA1BA1BA1BA1BA1BA1BA1BA1BA1BA1BA1BA1BA1BA1BA1BA1BA1BA1BA1BA1BA1BA1BA",
     "1BA1BA1BA1BA1BA1BA1BA1BA1BA1BA1BA1BA1BA1BA1BA1BA1BA1BA1BA1BA1BA1BA1BA1BA1BA1BA1BA1BA1BA1",
     "BA1BA1BA1BA1BA1BA1BA1BA1BA1BA1BA1BA1BA1BA1BA1BA1BA1BA1BA1BA1BA1BA1BA1BA1BA1BA1BA1BA1BA1B",
     "A1BA1BA1BA1BA1BA1BA1BA1BA1BA1BA1BA1BA1BA1BA1BA1BA1BA1BA1BA1BA1BA1BA1BA1BA1BA1BA1BA1BA1BA",
     "1BA1BA1BA1BA1BA1BA1BA1BA1BA1BA1BA1BA1BA1BA1BA1BA1BA1BA1BA1BA1BA1BA1BA1BA1BA1BA1BA1BA1BA1",
     "BA1BA1BA1BA1BA1BA1BA1BA1BA1BA1BA1BA1BA1BA1BA1BA1BA1BA1BA1BA1BA1BA1BA1BA1BA1BA1BA1BA1BA1B",
     "A1BA1BA1BA1BA1BA1BA1BA1BA1BA1BA1BA1BA1BA1BA1BA1BA1BA1BA1BA1BA1BA1BA1BA1BA1BA1BA1BA1BA1BA",
     "1BA1BA1BA1BA1BA1BA1BA1BA1BA1BA1BA1BA1BA1BA1BA1BA1BA1BA1BA1BA1BA1BA1BA1BA1BA1BA1BA1BA1BA1",
     "BA1BA1BA1BA1BA1BA1BA1BA1BA1BA1BA1BA1BA1BA1BA1BA1BA1BA1BA1BA1BA1BA1BA1BA1BA1BA1BA1BA1BA1B",
     "A1BA1BA1BA1BA1BA1BA1BA1BA1BA1BA1BA1BA1BA1BA1BA1BA1BA1BA1BA1BA1BA1BA1BA1BA1BA1BA1BA1BA1BA",
     "1BA1BA1BA1BA1BA1BA1BA1BA1BA1BA1BA1BA1BA1BA1BA1BA1BA1BA1BA1BA1BA1BA1BA1BA1BA1BA1BA1BA1BA1",
     "BA1BA1BA1BA1BA1BA1BA1BA1BA1BA1BA1BA1BA1BA1BA1BA1BA1BA1BA1BA1BA1BA1BA1BA1BA1BA1BA1BA1BA1B",
     "A1BA1BA1BA1BA1BA1BA1BA1BA1BA1BA1BA1BA1BA1BA1BA1BA1BA1BA"]⟩,
   ⟨["lvt"],
    ["1b1P1AB1AB1AB1AB1AB1AB1AB1AB1AB1AB1AB1AB1AB1AB1AB1AB1AB1AB1AB1AB1AB1AB1AB1AB1AB1AB1AB1AB",
     "1AB1AB1AB1AB1AB1AB1AB1AB1AB1AB1AB1AB1AB1AB1AB1AB1AB1AB1AB1AB1AB1AB1AB1AB1AB1AB1AB1AB1AB1",
     "AB1AB1AB1AB1AB1AB1AB1AB1AB1AB1AB1AB1AB1AB1AB1AB1AB1AB1AB1AB1AB1AB1AB1AB1AB1AB1AB1AB1AB1A",
     "B1AB1AB1AB1AB1AB1AB1AB1AB1AB1AB1AB1AB1AB1AB1AB1AB1AB1AB1AB1AB1AB1AB1AB1AB1AB1AB1AB1AB1AB",
     "1AB1AB1AB1AB1AB1AB1AB1AB1AB1AB1AB1AB1AB1AB1AB1AB1AB1AB1AB1AB1AB1AB1AB1AB1AB1AB1AB1AB1AB1",
     "AB1AB1AB1AB1AB1AB1AB1AB1AB1AB1AB1AB1AB1AB1AB1AB1AB1AB1AB1AB1AB1AB1AB1AB1AB1AB1AB1AB1AB1A",
     "B1AB1AB1AB1AB1AB1AB1AB1AB1AB1AB1AB1AB1AB1AB1AB1AB1AB1AB1AB1AB1AB1AB1AB1AB1AB1AB1AB1AB1AB",
     "1AB1AB1AB1AB1AB1AB1AB1AB1AB1AB1AB1AB1AB1AB1AB1AB1AB1AB1AB1AB1AB1AB1AB1AB1AB1AB1AB1AB1AB1",
     "AB1AB1AB1AB1AB1AB1AB1AB1AB1AB1AB1AB1AB1AB1AB1AB1AB1AB1AB1AB1AB1AB1AB1AB1AB1AB1AB1AB1AB1A",
     "B1AB1AB1AB1AB1AB1AB1AB1AB1AB1AB1AB1AB1AB1AB1AB1AB1AB1AB1AB1AB1AB1AB1AB1AB1AB1AB1AB1AB1AB",
     "1AB1AB1AB1AB1AB1AB1AB1AB1AB1AB1AB1AB1AB1AB1AB1AB1AB1AB1AB1AB1AB1AB1AB1AB1AB1AB1AB1AB1AB1",
     "AB1AB1AB1AB1AB1AB1AB1AB1AB1AB1AB1AB1AB1AB1AB1AB1AB1AB1AB1AB1AB1AB1AB1AB1AB1AB1AB1AB1AB1A",
     "B1AB1AB1AB1AB1AB1AB1AB1AB1AB1AB1AB1AB1AB1AB1AB1AB1AB1AB1AB1AB1AB1AB1AB1AB1AB1AB1AB1AB1AB",
     "1AB1AB1AB1AB1AB1AB1AB1AB1AB1AB1AB1AB1AB1AB1AB1AB1AB1AB1A"]⟩,
   ⟨["prepend", "pp"],
    ["1nCF8HA1XAeUB3CA17NA1yyKAPA9KBkFA1hLABA9OA2VFqYAhBA"]⟩,
   ⟨["regionalindicator", "ri"],
    ["3s6KZ"]⟩,
   ⟨["spacingmark", "sm"],
    ["2gTA2DACCIDBB1YB2HBGBCB2CA2GC2OA2GCIABB2BB2IAGBCB4KABBDCBC2AC2JD2JB2GACABB1UAOB2HBFCBC2B",
     "B2YBGGTB2LA4XA5IB2LA6VAJBZB1SA1yVAHHBBdIDCCEBBF8QB2GABAVF5PA2FD2MA1EAEB2LACCBA2BHIB6PAVA",
     "122HBCA3KB1YP5MA1WA1WBEBCB4HBCBYA6BACBFA9DBBBBBBArdJABA4XA1TCEB4LAYB2HA1WCJAOA3PCDB6QC1F",
     "B2HABDCBCBVB3HBPABB3ZCIBDA4DBGABBBACA9EBGDCA4JCIBBA4FABB4GAHAaBCJA9OEBBHABA5MCIDEA3GA1DB",
     "2KAfRAOA4CAHACA8FEEBBAdMBMA1WBIBi1AC3vG2C"]⟩,
   ⟨["t"],
    ["4tW3J1i3N1W"]⟩,
   ⟨["v"],
    ["4rC2T1i5WW14xCADD"]⟩,
   ⟨["zwj"],
    ["8rPA"]⟩]

/-- Kinds for breaks between sentences. -/
def sentenceBreaks : List Named :=
  [⟨["aterm", "at"],
    ["1UA8qRA1orPA7FA"]⟩,
   ⟨["cr"],
    ["NA"]⟩,
   ⟨["close", "cl"],
    ["1IAEC1XABA1DABA1TAPA3ySD20NB2lJHZBKB2CBOBoJD1DB15GFHN3BB1FJfNV2LD1GB13MNOBCJYASHgLJCHBC1",
     "k3QB8HB1CPCBQF6NB1XABA1DABABBBB1vkSC"]⟩,
   ⟨["extend", "ex"],
    ["tO4HaPGaD1SBABBBBBA2UK1WUQA3XGCFCBBD1JA1E1A3NK2GIJAYDBIBCBE1RC2HI1QXB1G2CCBRBGKB1DC2EABG",
     "CBCCJAKB1AACC2EABEEBCCDA1EBDALC2EABHBCBCUBWFBC2EABGCBCCHCKB1EA2HEDCBDJA1OE2DABGBCBDHBLB1",
     "DC2EABGBCBDHBLBPAMD2DBBGBCBDJAKB1DC2SAEFBABHSB2JACGMH3UACILG2VB1BABABAEB1XTBBFKB1JJA3WTX",
     "DECBCCGDDNLBAKDrBC10KD1CC1DB1EB2M1FJA1TCBA4NB1IA4OLEL8LE2FJB1CCA1W1E1XE1VQ1MIMC1EM2EN1WT",
     "5WCBUEAGACC7Q2LkEB7M1G3aCC5LA3S1FlIF4BBw8EDBJ1GB3CBaMADAEAXEEA3FB1YR1ARNA1MHZM1SD1VN1KA2",
     "PNMAIB1TC1YABCCBFBBA1PEFB9CHBBlnSAsJPQPeCBnHA8SA5TE1sGCBBFD1OCEA6JBmBD2NEcFB3BD2SK1XD4SC",
     "2BO1PACBKD1TKHA2JC1KNQB1SAMC1WNIDBB3OLGACA6BLVD2DBBGCBCCJAKBCGDE2PIBACABDBEBAOB3ERXA3DT9",
     "BGCI1BB3EQ4CM3XO9WO9LFBBCDBABB5LGCGDA1CJ1OGBDIAJK1UPfPHBH3EVBN4SFDABBBGBA2OEBBBEdJDJBBA1",
     "WGDEXA5pTAGOc8YR2oAE2HG14IAB2CHD3DALBkyXB50Z1TCWkWEDFIHCG1ED5SC24D2CE1XIAOAWEBO1gIGBQCGB",
     "BBE3WA6EGeLA2JDjOD9UBsIG4FGnigF3R4Y9F"]⟩,
   ⟨["format", "fo"],
    ["6RA1hMA9IA4nIA26QACB1AE1XEBJ1ovJA9PCeaAP11aUD5oXHnoxMA"]⟩,
   ⟨["lf"],
    ["KA"]⟩,
   ⟨["lower", "lo"],
    ["3TZ1VAKAEA1KXBHBABABABABABABABABABABABABABABABABABABABABABABABABABABABBBABABABABABABABBB",
     "ABABABABABABABABABABABABABABABABABABABABABABACABABCCABACADBEACADCCACABABACABBBACADABACBC",
     "CGACACABABABABABABABABBBABABABABABABABABBCABADABABABABABABABABABABABABABABABABABABABABAB",
     "ABABABABABABABABGCACBBAEABABABAB2QB1JHB1EE5KABADACDSA1B1IBBDCBABABABABABABABABABABABEBAC",
     "ACB1Z1VBABABABABABABABABABABABABABABABABAJABABABABABABABABABABABABABABABABABABABABABABAB",
     "ABABABACABABABABABABBBABABABABABABABABABABABABABABABABABABABABABABABABABABABABABABABABAB",
     "ABABABABABABABABABABABABABABA1W1O34TAtJF2bUIBA4N7J2NABABABABABABABABABABABABABABABABABAB",
     "ABABABABABABABABABABABABABABABABABABABABABABABABABABABABABABABABABABABABABABABABABABABAB",
     "ABABABABABABABABABABABABIBABABABABABABABABABABABABABABABABABABABABABABABABABABABABABABAB",
     "ABABABABABABABABABABABABABABABABABIIFKHIHIFKHIHINCHIHIHIEBBGADCBBIDCBIHKCBB4RANAQM4FADBD",
     "A1BAEAEACBIDEA1HPEAwLZ1zQ1VBADBBABABAEABBBHDABABABABABABABABABABABABABABABABABABABABABAB",
     "ABABABABABABABABABABABABABABABABABABABABABABABABABABABBHABAEAM1LBAFAx4DABABABABABABABABA",
     "BABABABABABABABABABABABABABATABABABABABABABABABABABABABC5DABABABABABABCBABABABABABABABAB",
     "ABABABABABABABABABABABABABABABABABABABABABABJBABACABABABABAEABACABCBABABABABABABABABABAF",
     "AFABABABABABABABAEABACADABABABABABAWCBABCvP1QBNG3BloIGME14ZZ1bH1N5G1J5ZKBOBGBBhJACCB1PBI",
     "1dL1Y4VV32O1FndW1FrsKZ1AGBR1AZ1ADBABGBK1AZ1AZ1AZ1AZ1AZ1AZ1AZ1AZ1A1B1CYBF1AYBF1AYBF1AYBF1",
     "AYBFBA1yYJBTGFaB2J2dS1H"]⟩,
   ⟨["numeric", "nu"],
    ["1WJ1kWF3MJBB4IASJ7QJ7QB3CA5BJ4OJ4OJ4OJ4OJ4OJ4OJ4OJ4OJ4OJ3SJ4OJ2SJaSJ2SJ1zQJ1MJbOJ4YK6JJG",
     "J7AJ3IJ5EJGJ11oOJqCJ1MJ7QJWJ3IJfQJmqCJ1iKJ2bYJGJuQJ2ZAPA1IJ2IJ5OJaSJdEJ4OJeKJ3YJGT2YJgGJ",
     "3YJpMJ3IJ9MJ2SJgGJi0GJ2iCJ3IJ5EJkOJq3YJ2yQ1X2jCJgGJjIJ9NJwVJ53AJ"]⟩,
   ⟨["oletter", "le"],
    ["hBAED8AA1KGGL1AABA5DAiQA4O1AEE1S1Q1JBB3UBAPBHBKCCAQAB1D1D3KLAY1GJBEAFVEAJADAXYHKFXBFR1P2",
     "G2BDASAHJPPEHCBCVBGBADDDAQANBBCOBKAIFEBCVBGBBBBBB1FDBATCQIBCBVBGBBBEDASAPBXALHCBCVBGBBBE",
     "DA1EBBCPARABFDCBDDBBABBDBDCDLWA2AHBCBWBPDA1ACCACB1EAEHBCBWBJBEDA1FBBBPBRIBCB1OCAQAFCICYF",
     "FRDXBIBACG2G1VBBMG2GBBABEBXBABJBBJACEBAVD1GA2LHB1J1BE4L1QUAQFEDDADBHCEMMA2N1QCcTBDCGBABD",
     "C1OBDC1GBDCGBABDCOB2EBDC2O1LP4JnVCQBZF2WDKHRNSOROMBCP1Z1JAEA2P3KHEC1HBAF2RK1E1X1DCEL1REZ",
     "2CWJ2A3EA3P1URH2C1DNBK1R1A1J1PCK1JS1QCC1PDBFBBDA15QD2TCCD36T2DHAQWJGBGBGBGBGBGBGBG3CAiBC",
     "ZIHECEE3HGCB3LBDF1QB3PR1F1WPjS71N2MnoE2P1TCaIDPKB2OAQA1G3B1NI4AAGA3ZADGBCBDBW1D1ZO1X2KFD",
     "ABBL1BKWZ1CH1U1CAQEBJKEB1OXCBHUWDAD1XBADBCECABAYCCKHCMFCFCFJGBG5P1I1DbxRMWE1W91CeBC4B2PA",
     "BJBMBEBABBBBB4D1HdYS2LC2B1OL4MEB5E4B2DC1EDFCFCFCC1JLBZBSBBBOCN1I4S2R2AaH1CD1W1V1FN1DF1LK",
     "1DC1JEHBE4S2Z3U1NI1Z3O1ZMbYJVKHZB4VFCAB1RBBDACWKWJ1E2NSBBKVKZ2S2DGB2MAPDBCB1C1Q1CD1C1JHB",
     "1B1B2BKVKSNR4G2U7B1J1MF1FAaM1PGBQC2H1CKAIV1QR1UU1BWM2A2FBCAN1S1GY1A1J1DACAI1IDAM1VODVABA",
     "1JRBYTB2LGBABDBOBJH1U1MHCBCVBGBBBEDASAME1EJBACAB1LBAZABA1S2ASDUC1E1VUBBA7C1U1PD1K1VUA2H1",
     "QNA2T1A1LG7D1R8DHCACHBBBXPABA3QHC1MQABA1CAK1NHAVAL1TTAS2U7R1G1FIB1KRA1X1D4IGBBB1LVAZFBBB",
     "1FOAcPSPABMB1H4UA3BzL3Y4GR7N2tK3SP15FRFZ49QFmK7bD1D1vUlWH1ER3AR1DS1VQD1FUFSgQ1SfN2WFA2OM",
     "2MBBA1C6jZI1bP1PJ9jRDBGBBBbEPA1DCCAODIfF2gU4CFMDIHJ9fCAjH1SKGQAcJ1DS1RiQ1B8U1DCAjBGBDBBB",
     "OB7O5EA1aIDB1ABBBACABJBDBABAGAEABABABCBBBACABABABABABBBACDBGBDBDBABJBQFCBEBQ4qA19nB1G4fT",
     "G8NC65PO7zKPnX2mWkV1lY59YF4hF"]⟩,
   ⟨["scontinue", "sc"],
    ["1SBMBwCAiKA6SBiWA4dXAFA27EB4cUA1kcWBBB1CB1DBCBCAKA6MBMB2UA"]⟩,
   ⟨["sterm", "st"],
    ["1HA1DA1gBA5RC6YA1RC9MA2JABADBbHB1vWBuKAEBtTA7QB6BB1TAFAcCBdQD6GBKBCB1DC7FB2NB10UBJC3gXCb",
     "UANAWBgNAvzWAaKB8TADAeSB3IB3RA5WB5RC5OB9PAmgWACB2LB6NA1DA2NA2zWB1dDE1SD7HB4ND4XC4ZBGAQB3",
     "KBBB4EAbMB4NBeJBFO4BB9PCjXABA9RB3JBgEBqQB2WBkkBB5DA2NBLAlHBbKAlcGA86MA"]⟩,
   ⟨["sep", "se"],
    ["5DA8nMB"]⟩,
   ⟨["sp"],
    ["JABBTA4XA5zJA2lNK1KA1VA49WA"]⟩,
   ⟨["upper", "up"],
    ["2NZ3XWBG1HABABABABABABABABABABABABABABABABABABABABABABABABABABABACABABABABABABABACABABAB",
     "ABABABABABABABABABABABABABABABABABABABABBBABADBBABBBCCDBBBCDBBBBABABBBACABBBCBABBDAHBBBB",
     "BBABABABABABABABACABABABABABABABABACBBABCBABABABABABABABABABABABABABABABABABABABABABABAB",
     "ABABABABABAHBBBCABDBABABABAbDABADAIAGABCBABBBQBI1JACCDABABABABABABABABABABABAFACABBC1Y1W",
     "ABABABABABABABABABABABABABABABABAJABABABABABABABABABABABABABABABABABABABABABABABABABABAB",
     "BBABABABABABACABABABABABABABABABABABABABABABABABABABABABABABABABABABABABABABABABABABABAB",
     "ABABABABABABABABABABAC1L33D1LBAFArU3H2cLAeKABABABABABABABABABABABABABABABABABABABABABABA",
     "BABABABABABABABABABABABABABABABABABABABABABABABABABABABABABABABABABABABABABABABABABABABA",
     "BABABABABABABABAJABABABABABABABABABABABABABABABABABABABABABABABABABABABABABABABABABABABA",
     "BABABABABABABABABABABABABAJHIFKHIHIFLABABABAIHYHIHIHIELELDMELEaBAEADCCCCADEGABABABDCDKBF",
     "A1APTAvMZ1yU1V1WABCCABABABDBACAICBABABABABABABABABABABABABABABABABABABABABABABABABABABAB",
     "ABABABABABABABABABABABABABABABABABABABABABAIABAEAx6JABABABABABABABABABABABABABABABABABAB",
     "ABABABABATABABABABABABABABABABABABABA5FABABABABABABADABABABABABABABABABABABABABABABABABA",
     "BABABABABABABABABABABABABAKABABBBABABABAEABACABADABABABABABABABABABABEBEBABABABABABABABD",
     "BABBDAFABABABAYAnuHZ1aZ1N5G1J6AKBOBGBB1wC1Y6BV32O1FndW1FrsQZ1AZ1AZ1AABBCACBCDBH1AZ1ABBDC",
     "HBG1BBBDBEBADG1BZ1AZ1AZ1AZ1AZ1AZ1EY1HY1HY1HY1HY1HA4pL1H27IZGZGZ"]⟩]

/-- Kinds for breaks between words. -/
def wordBreaks : List Named :=
  [⟨["aletter", "le"],
    ["2NZGZ1VAKAEAFWB1EBiLG1H4IEBBCDBAGABCBABTB3EB5II6JB1LCDBAB1OBA4AA1S1Q1JBB3UBAPBHBKCCAPBB1",
     "D1D3KLAY1GJBEAFVEAJADAXYHKFXBFR1P2G2BDASAHJPPEHCBCVBGBADDDAQANBBCOBKAIFEBCVBGBBBBBB1FDBA",
     "TCQIBCBVBGBBBEDASAPBXALHCBCVBGBBBEDA1EBBCPARABFDCBDDBBABBDBDCDLWA2AHBCBWBPDA1ACCACB1EAEH",
     "BCBWBJBEDA1FBBBPBRIBCB1OCAQAFCICYFFRDXBIBACGcBA2LHB1J1BEaP1LBAFAC1QBcUBDCGBABDC1OBDC1GBD",
     "CGBABDCOB2EBDC2O1LPQ3HCFDnVCQBZF2WDKHRNSOROMBC6T3KHEC1HBAF2RK1E8RW9E1URH2C1DNBK1R1A1J1PC",
     "K1JCKF1QCC1PDBFBBDAF7J2MaRCFC1LCFCHBABABAB1EC2ABGBADCBGDDCFEMFCBG4MANAQM3XAEACJBADEGABAB",
     "ABDBKCDFEEAR1OvH1Z1xU8UGDDBM1LBAFAC2DHAQWJGBGBGBGBGBGBGBG3CAiBA2BB7S1QB3PR1Fu5O18U2P1TCa",
     "IDPKBU1UQ1EC3BY7PCBBABHVPBCBDBW1D1ZO1X2KFDABBL1BKWZ1CH1U1CA1W1OXCBH5SKHCMFCFCFJGBGB2FG4K",
     "1DbxRMWE1W9kUGME2E3T1HdYS2LC2B1OL4MEB5E1KZGZ2R1EDFCFCFCC1JLBZBSBBBOCN1I4S2R2AaH1CD1W1V1F",
     "N1DF1LK1DC1JEHBE1Q6BS1JE1JE1NI1ZMKBOBGBBBKBOBGBBD1ZMbYJVKHYFB1PBI2RFCAB1RBBDACWKWJ1E2NSB",
     "BKVKZ2S2DGB2MAPDBCB1C1Q1CD1C1JHB1B1B2BKVKSNR4G2U2D1YN1YN1J1M1BJW9Q1PGBQC2H1CKAIV1QR1UU1B",
     "WM2A2FBCAN1S1GY1A1J1DACAI1IDAM1VODVABA1JRBYTB2LGBABDBOBJH1U1MHCBCVBGBBBEDASAME1EJBACAB1L",
     "BAZABA1S2ASDUC1E1VUBBA7C1U1PD1K1VUA2H1QNAcP1R4M2L1FHCACHBBBXPABA3QHC1MQABA1CAK1NHAVAL1TT",
     "AS2U7R1G1FIB1KRA1X1D4IGBBB1LVAZFBBB1FOAcPSPABMB1H4UA3BzL3Y4GR7N2tK3SP15FRFZ49QFmK7bD1D1v",
     "UlWH1ER3AR1DS1VQD1FUFSgQ1S8D2L4Y2WFA2OM2MBBAktK4CFMDIHJ6eK3GB2SBBCACBCDBLBABGB2MBDCHBGB1",
     "BBDBEBADGBdBCYBYB1EBYB1EBYB1EBYB1EBYBH1yY1EGFaB2J5Q1SKGQAcJ1DS1RiQ1B8U1DCAjBGBDBBBOB7O2H",
     "2PHA1aIDB1ABBBACABJBDBABAGAEABABABCBBBACABABABABABBBACDBGBDBDBABJBQFCBEBQoEZGZGZ"]⟩,
   ⟨["cr"],
    ["NA"]⟩,
   ⟨["doublequote", "dq"],
    ["1IA"]⟩,
   ⟨["extend"],
    ["tO4HaPGaD1SBABBBBBA2UK1WUQA3XGCFCBBD1JA1E1A3NK2GIJAYDBIBCBE1RC2HI1QXB1G2CCBRBGKB1DC2EABG",
     "CBCCJAKB1AACC2EABEEBCCDA1EBDALC2EABHBCBCUBWFBC2EABGCBCCHCKB1EA2HEDCBDJA1OE2DABGBCBDHBLB1",
     "DC2EABGBCBDHBLBPAMD2DBBGBCBDJAKB1DC2SAEFBABHSB2JACGMH3UACILG2VB1BABABAEB1XTBBFKB1JJA3WTX",
     "DECBCCGDDNLBAKDrBC10KD1CC1DB1EB2M1FJA1TCBA4NB1IA4OLEL8LE2FJB1CCA1W1E1XE1VQ1MIMC1EM2EN1WT",
     "5WCBUEAGACC7Q2LkEA7N1G3aCC5LA3S1FlIF4BBw8EDBJ1GB3CBaMADAEAXEEA3FB1YR1ARNA1MHZM1SD1VN1KA2",
     "PNMAIB1TC1YABCCBFBBA1PEFB9CHBBlnSAsJPQPeCBnHA8SA5TE1sGCBBFD1OCEA6JBmBD2NEcFB3BD2SK1XD4SC",
     "2BO1PACBKD1TKHA2JC1KNQB1SAMC1WNIDBB3OLGACA6BLVD2DBBGCBCCJAKBCGDE2PIBACABDBEBAOB3ERXA3DT9",
     "BGCI1BB3EQ4CM3XO9WO9LFBBCDBABB5LGCGDA1CJ1OGBDIAJK1UPfPHBH3EVBN4SFDABBBGBA2OEBBBEdJDJBBA1",
     "WGDEXA5pTAGOc8YR2oAE2HG14IAB2CHD3DALBkyXB50Z1TCWkWEDFIHCG1ED5SC24D2CE1XIAOAWEBO1gIGBQCGB",
     "BBE3WA6EGeLA2JDjOD9UBsIG4FG2xGEnfiU3R4Y9F"]⟩,
   ⟨["extendnumlet", "ex"],
    ["3RA8pFAPBTA1ooOBYC9FA"]⟩,
   ⟨["format", "fo"],
    ["6RA1hMA4wRA26TB1AE1XEBJ1ovJA9PCeaAP11aUD5oXHnoxMA"]⟩,
   ⟨["hebrewletter", "hl"],
    ["1lG1AED1v1YABJBMBEBABBBBBJ"]⟩,
   ⟨["katakana", "ka"],
    ["d6NE3XBD3MBD9GP8A1UB3J1jtE2D1c8CDBGBBBAbBC1YAOD"]⟩,
   ⟨["lf"],
    ["KA"]⟩,
   ⟨["midletter", "ml"],
    ["2GA4UArRAiDA5SA75YA1opBA2NA7OA"]⟩,
   ⟨["midnum", "mn"],
    ["1SAOAwCAkCA5AB3QAfFA6nFA1oqHADA7BAOA"]⟩,
   ⟨["midnumlet", "mb"],
    ["1UA8qFBKA1orPA6YAGA"]⟩,
   ⟨["newline", "nl"],
    ["LB4QA8nMB"]⟩,
   ⟨["numeric", "nu"],
    ["1WJ1kWF3MJBA4JASJ7QJ7QB3CA5BJ4OJ4OJ4OJ4OJ4OJ4OJ4OJ4OJ4OJ3SJ4OJ2SJaSJ2SJ1zQJ1MJbOJ4YK6JJG",
     "J7AJ3IJ5EJGJ11oOJqCJ1MJ7QJWJ3IJfQJmqCJ1iKJ2bYJGJuQJ2ZAPA1IJ2IJ5OJaSJdEJ4OJeKJ3YJGT2YJgGJ",
     "3YJpMJ3IJ9MJ2SJgGJi0GJ2iCJ3IJ5EJkOJq3YJ2yQ1X2jCJgGJjIJ9NJwVJ53AJ"]⟩,
   ⟨["regionalindicator", "ri"],
    ["3s6KZ"]⟩,
   ⟨["singlequote", "sq"],
    ["1NA"]⟩,
   ⟨["wsegspace"],
    ["1GA64HA2lNGBC3GA49WA"]⟩,
   ⟨["zwj"],
    ["8rPA"]⟩]

end Pattern

end FieldCalc
